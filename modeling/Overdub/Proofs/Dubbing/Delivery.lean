import Overdub.Proofs.Dubbing.Isolation
import Overdub.Proofs.Subtitle.Order

/-!
Cues are taken up complete, in order and once. Whatever the clocks of the primary frames do, after a
run of calls the ledger holds the cues that are due at the latest moment so far, in the order of the
track, and the track holds the others.
-/

namespace Overdub

namespace Ledger

theorem blind_cue : Blind Record.cue := fun _ _ _ => rfl

theorem cues_settle (l : Ledger) (id : CueId) (result : Except GenerationError Report) :
    (l.settle id result).records.map (·.cue) = l.records.map (·.cue) := by
  cases result with
  | error e => exact blind_cue.discard ..
  | ok report =>
    have told : ∀ r : Record, Record.cue { r with
        speed := some report.speed, frames := report.frames
        failure := report.fault.map Failure.decode } = r.cue := fun _ => rfl
    unfold settle
    dsimp only
    split
    · rw [blind_cue.discard, map_update told]
    · rw [blind_cue.setState, map_update told]

end Ledger

namespace Pipeline

open Cue (InOrder)

variable {p q : Pipeline} {h : History} {speaker : Speaker}

def taken (p : Pipeline) : List Cue := p.ledger.records.map (·.cue)

theorem taken_speak (p : Pipeline) (speaker : Speaker) (cue : Cue) :
    (p.speak speaker cue).2.taken = p.taken ++ [cue] := by
  have added : (p.ledger.add cue).records.map (·.cue) = p.taken ++ [cue] := List.map_append
  rw [← added]
  unfold speak taken
  dsimp only
  split
  · exact Ledger.blind_cue.discard ..
  · split <;> exact Ledger.cues_settle ..

theorem map_mix {α : Type} {g : Record → α} (blind : Ledger.Blind g) (p : Pipeline) (frame : Frame) :
    (p.mix frame).2.ledger.records.map g = p.ledger.records.map g := by
  unfold mix note
  dsimp only
  split
  · dsimp only
    rw [Ledger.Blind.foldl _ blind.retire, Ledger.Blind.foldl _ blind.touch]
  · exact blind.discard ..
  · rfl

theorem taken_mix (p : Pipeline) (frame : Frame) : (p.mix frame).2.taken = p.taken :=
  map_mix Ledger.blind_cue p frame

theorem exists_speakAll {cues : List Cue} (room : (p.speakAll speaker cues).1 = none) :
    ∃ q, p.speakAll speaker cues = (none, [], q) ∧ q.taken = p.taken ++ cues := by
  induction cues generalizing p with
  | nil => exact ⟨p, rfl, (List.append_nil _).symm⟩
  | cons cue cues ih =>
    have one := p.taken_speak speaker cue
    rw [speakAll] at room ⊢
    generalize p.speak speaker cue = r at one room ⊢
    obtain ⟨_ | e, q⟩ := r
    · obtain ⟨q', spoken, taken⟩ := ih room
      refine ⟨q', spoken, ?_⟩
      rw [taken, one, List.append_assoc]
      rfl
    · cases room

def moment (p : Pipeline) (frame : Frame) : Duration := frame.timeBase.toDuration (p.startOf frame)

/-- Neither memory nor time stamps ran out. -/
def hasRoom : Except PipelineError Frame → Bool
  | .error (.generation e) => !e.isFatal
  | _ => true

theorem exists_speakAll_due {frame : Frame} (room : hasRoom (p.process speaker frame).1) :
    ∃ q, p.speakAll speaker (p.due frame).1 = (none, [], q) ∧
      q.taken = p.taken ++ (p.due frame).1 := by
  apply exists_speakAll
  cases fault : (p.speakAll speaker (p.due frame).1).1 with
  | none => rfl
  | some e =>
    rw [process_of_fault rfl (Prod.ext fault rfl)] at room
    cases speakAll_fault fault <;> cases room

theorem exists_process {frame : Frame} (room : hasRoom (p.process speaker frame).1) :
    (p.process speaker frame).2.taken =
        p.taken ++ (p.track.cues.span (·.isDue (p.moment frame))).1 ∧
      (p.process speaker frame).2.track.cues =
        (p.track.cues.span (·.isDue (p.moment frame))).2 := by
  obtain ⟨q, spoken, taken⟩ := exists_speakAll_due room
  rw [process_of_speakAll rfl spoken]
  exact ⟨(taken_mix q frame).trans taken, rfl⟩

/-- Calls of any kind, each with a speaker of its own and with room; `times` tells when their frames
started. -/
inductive Runs (p : Pipeline) : List Duration → Pipeline → Prop
  | here : Runs p [] p
  | call {times : List Duration} {q : Pipeline} (speaker : Speaker) (frame : Frame) :
      Runs p times q → hasRoom (q.process speaker frame).1 →
      Runs p (times ++ [q.moment frame]) (q.process speaker frame).2

/-- The cues that were due at one of `times` were taken up, and the others are left. -/
structure Delivered (track : List Cue) (times : List Duration) (p : Pipeline) : Prop where
  exists_sound : ∃ h, p.Sound h
  whole : p.taken ++ p.track.cues = track
  due : ∀ c ∈ p.taken, ∃ t ∈ times, c.isDue t
  late : ∀ c ∈ p.track.cues, ∀ t ∈ times, ¬ c.isDue t

namespace Delivered

variable {track : List Cue} {times : List Duration}

theorem start {target : Target} {gains : Gains} {track : Subtitle.Track}
    (started : start? target gains track = .ok p) : Delivered track.cues [] p := by
  refine ⟨⟨_, .start started⟩, ?_, ?_, ?_⟩ <;> rw [eq_of_start? started]
  · rfl
  · exact nofun
  · exact nofun

theorem call (d : Delivered track times p) (sorted : Cue.Sorted track) {frame : Frame}
    (room : hasRoom (p.process speaker frame).1) :
    Delivered track (times ++ [p.moment frame]) (p.process speaker frame).2 := by
  obtain ⟨h, sound⟩ := d.exists_sound
  obtain ⟨taken, left⟩ := exists_process room
  have ahead : Cue.Sorted p.track.cues := by
    rw [← d.whole] at sorted
    exact (List.pairwise_append.mp sorted).2.1
  rw [Subtitle.Track.span_due ahead] at taken left
  refine ⟨⟨_, (sound.advance speaker _ frame).withTrack _⟩, ?_, ?_, ?_⟩
  · have span := Subtitle.Track.span_due ahead (p.moment frame)
    rw [List.span_eq_takeWhile_dropWhile] at span
    obtain ⟨first, rest⟩ := Prod.mk.inj span
    rw [taken, left, ← first, ← rest, List.append_assoc, List.takeWhile_append_dropWhile, d.whole]
  · intro c mem
    rw [taken] at mem
    rcases List.mem_append.mp mem with mem | mem
    · obtain ⟨t, early, due⟩ := d.due c mem
      exact ⟨t, List.mem_append_left _ early, due⟩
    · exact ⟨_, List.mem_append_right _ List.mem_cons_self, (List.mem_filter.mp mem).2⟩
  · intro c mem t known
    rw [left, List.mem_filter] at mem
    rcases List.mem_append.mp known with known | known
    · exact d.late c mem.1 t known
    · cases List.mem_singleton.mp known
      simpa using mem.2

theorem of_runs {track : List Cue} (d : Delivered track [] p) (sorted : Cue.Sorted track)
    (run : p.Runs times q) : Delivered track times q := by
  induction run with
  | here => exact d
  | call speaker frame _ room ih => exact ih.call sorted room

theorem split (d : Delivered track times p) {latest : Duration} (mem : latest ∈ times)
    (last : ∀ t ∈ times, t ≤ latest) :
    p.taken = track.filter (·.isDue latest) ∧ p.track.cues = track.filter (!·.isDue latest) := by
  have due : ∀ c ∈ p.taken, c.isDue latest := by
    intro c taken
    obtain ⟨t, known, due⟩ := d.due c taken
    exact decide_eq_true (Duration.le_trans (of_decide_eq_true due) (last t known))
  have late : ∀ c ∈ p.track.cues, ¬ c.isDue latest := fun c left => d.late c left latest mem
  have due' : ∀ c ∈ p.taken, ¬ (!c.isDue latest) := fun c taken => by simp [due c taken]
  have late' : ∀ c ∈ p.track.cues, !c.isDue latest := fun c left => by simp [late c left]
  rw [← d.whole, List.filter_append, List.filter_append, List.filter_eq_self.mpr due,
    List.filter_eq_nil_iff.mpr late, List.filter_eq_nil_iff.mpr due', List.filter_eq_self.mpr late',
    List.append_nil, List.nil_append]
  exact ⟨rfl, rfl⟩

end Delivered

/-- After any calls, of which none ran out of memory or time stamps, the records stand in the order of their numbers
and hold the cues with words that are due at the latest moment so far, in order of time, those of one
moment in the order in which they were given; the track holds the others. Before each frame the track
is pulled until no cue is due. -/
theorem delivers_due_cues {target : Target} {gains : Gains} {cues : List Cue} {p₀ : Pipeline}
    (start : start? target gains (.ofCues cues) = .ok p₀) {times : List Duration}
    (run : p₀.Runs times p) (called : times ≠ []) :
    ∃ latest ∈ times, (∀ t ∈ times, t ≤ latest) ∧
      p.ledger.records.map (·.id) = List.range p.ledger.totals.pulled ∧
      InOrder (cues.filter fun c => !c.isBlank && c.isDue latest) (p.ledger.records.map (·.cue)) ∧
      InOrder (cues.filter fun c => !c.isBlank && !c.isDue latest) p.track.cues ∧
      ∀ frame, ((p.due frame).1, ⟨(p.due frame).2⟩) = p.track.pullAll (p.moment frame) := by
  have order := Subtitle.Track.ofCues_inOrder cues
  have delivered := (Delivered.start start).of_runs order.sorted run
  obtain ⟨h, sound⟩ := delivered.exists_sound
  obtain ⟨latest, mem, last⟩ := Duration.exists_latest called
  obtain ⟨taken, left⟩ := delivered.split mem last
  refine ⟨latest, mem, last, ?_, ?_, ?_, ?_⟩
  · rw [sound.tallied.pulled, sound.tallied.ids]
  · have due := order.filter (·.isDue latest)
    rw [List.filter_filter, ← taken] at due
    simp only [Bool.and_comm] at due
    exact due
  · have late := order.filter (!·.isDue latest)
    rw [List.filter_filter, ← left] at late
    simp only [Bool.and_comm] at late
    exact late
  · intro frame
    rw [Subtitle.Track.pullAll_eq]
    rfl

theorem delivers_due_cues_ten_milliseconds :
    let frame := Frame.mono .f32 48000 (by decide) 480 [⟨0⟩]
    let other := Frame.mono .s16 48000 (by decide) 0 [0]
    let speaker : Speaker := fun _ _ => .error (.audio .noRate)
    let ten : Duration := .ofMicros 10000
    let cues : List Cue := [⟨"late", .ofMicros 10001, ⟨1⟩⟩, ⟨"a", ten, ⟨1⟩⟩, ⟨" ", ⟨0⟩, ⟨1⟩⟩,
      ⟨"b", ten, ⟨1⟩⟩, ⟨"early", ⟨0⟩, ⟨1⟩⟩]
    let p := { single frame with track := ⟨[⟨"early", ⟨0⟩, ⟨1⟩⟩, ⟨"a", ten, ⟨1⟩⟩, ⟨"b", ten, ⟨1⟩⟩,
      ⟨"late", .ofMicros 10001, ⟨1⟩⟩]⟩ }
    let q := ((p.process speaker frame).2.process speaker other).2
    start? p.target {} (.ofCues cues) = .ok p ∧
    p.Runs [ten, ⟨0⟩] q ∧
    (q.ledger.records.map (·.cue)).filter (·.start = ten) = [⟨"a", ten, ⟨1⟩⟩, ⟨"b", ten, ⟨1⟩⟩] ∧
    q.track.cues.filter (·.start = ten) = [] := by
  intro frame other speaker ten cues p q
  have words : cues.filter (!·.isBlank) = [⟨"late", .ofMicros 10001, ⟨1⟩⟩, ⟨"a", ten, ⟨1⟩⟩,
      ⟨"b", ten, ⟨1⟩⟩, ⟨"early", ⟨0⟩, ⟨1⟩⟩] := by decide +kernel
  have late : decide (Duration.ofMicros 10001 ≤ ten) = false := by decide
  have same : decide (ten ≤ ten) = true := by decide
  have early : decide (ten ≤ (⟨0⟩ : Duration)) = false := by decide
  have track : Subtitle.Track.ofCues cues = p.track := by
    rw [Subtitle.Track.ofCues, words]
    simp [List.mergeSort, List.MergeSort.Internal.splitInTwo, late, same, early, p]
  have start : start? p.target {} (.ofCues cues) = .ok p := by
    rw [track]
    rfl
  have once : p.Runs [p.moment frame] _ := .call speaker frame .here (by decide +kernel)
  have run : p.Runs [p.moment frame, _] q := once.call speaker other (by decide +kernel)
  have first : p.moment frame = ten := by decide +kernel
  have second : (p.process speaker frame).2.moment other = ⟨0⟩ := by decide +kernel
  rw [first, second] at run
  obtain ⟨latest, mem, last, _, taken, left, _⟩ := delivers_due_cues start run (List.cons_ne_nil _ _)
  have ten_eq : latest = ten := by
    have le : ten ≤ latest := last ten List.mem_cons_self
    rcases List.mem_cons.mp mem with rfl | mem
    · rfl
    · cases List.mem_singleton.mp mem
      exact absurd le (by decide)
  subst ten_eq
  refine ⟨start, run, ?_, ?_⟩
  · rw [taken.stable]
    decide +kernel
  · rw [left.stable]
    decide +kernel

end Pipeline

end Overdub
