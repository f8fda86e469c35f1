import Overdub.Proofs.Dubbing.Delivery

/-!
Cues from any source. A source is asked for one cue after another until it has none for the moment,
and each cue is spoken before the next one is asked for. A subtitle track is such a source.
-/

namespace Overdub

/-- At a moment a source hands out a cue or none, and goes on in another state. -/
abbrev Source (σ : Type) := σ → Duration → Option Cue × σ

namespace Pipeline

variable {σ : Type} {src : Source σ} {speaker : Speaker} {now : Duration} {frame : Frame}
  {s t u : σ} {p q r : Pipeline}

/-- Cues are taken from a source and spoken until it has none for `now` or nothing can go on. -/
inductive Serves (src : Source σ) (speaker : Speaker) (now : Duration) :
    σ → Pipeline → Option PipelineError → σ → Pipeline → Prop
  | idle {s t : σ} {p : Pipeline} : src s now = (none, t) → Serves src speaker now s p none t p
  | fault {s t : σ} {p q : Pipeline} {cue : Cue} {e : PipelineError} :
      src s now = (some cue, t) → p.speak speaker cue = (some e, q) →
      Serves src speaker now s p (some e) t q
  | next {s t u : σ} {p q r : Pipeline} {cue : Cue} {fault : Option PipelineError} :
      src s now = (some cue, t) → p.speak speaker cue = (none, q) →
      Serves src speaker now t q fault u r → Serves src speaker now s p fault u r

/-- One call: the cues that the source has for `frame`, then the frame itself. -/
inductive Dubs (src : Source σ) (speaker : Speaker) (frame : Frame) (s : σ) (p : Pipeline) :
    Except PipelineError Frame → σ → Pipeline → Prop
  | fault {t : σ} {q : Pipeline} {e : PipelineError} :
      Serves src speaker (p.moment frame) s p (some e) t q → Dubs src speaker frame s p (.error e) t q
  | mixed {t : σ} {q : Pipeline} :
      Serves src speaker (p.moment frame) s p none t q →
      Dubs src speaker frame s p (q.mix frame).1 t (q.mix frame).2

inductive DubsAll (src : Source σ) (speaker : Speaker) :
    σ → Pipeline → List Frame → List (Except PipelineError Frame × Pipeline) → Prop
  | done (s : σ) (p : Pipeline) : DubsAll src speaker s p [] []
  | call {s t : σ} {p q : Pipeline} {frame : Frame} {frames : List Frame}
      {result : Except PipelineError Frame} {steps : List (Except PipelineError Frame × Pipeline)} :
      Dubs src speaker frame s p result t q → DubsAll src speaker t q frames steps →
      DubsAll src speaker s p (frame :: frames) ((result, q) :: steps)

theorem Serves.unique {f g : Option PipelineError} (a : Serves src speaker now s p f t q)
    (b : Serves src speaker now s p g u r) : f = g ∧ t = u ∧ q = r := by
  induction a with
  | idle none =>
    cases b with
    | idle none' =>
      cases none.symm.trans none'
      exact ⟨rfl, rfl, rfl⟩
    | fault some' | next some' => cases none.symm.trans some'
  | fault some spoken =>
    cases b with
    | idle none' => cases some.symm.trans none'
    | fault some' spoken' =>
      cases some.symm.trans some'
      cases spoken.symm.trans spoken'
      exact ⟨rfl, rfl, rfl⟩
    | next some' spoken' =>
      cases some.symm.trans some'
      cases spoken.symm.trans spoken'
  | next some spoken _ ih =>
    cases b with
    | idle none' => cases some.symm.trans none'
    | fault some' spoken' =>
      cases some.symm.trans some'
      cases spoken.symm.trans spoken'
    | next some' spoken' rest' =>
      cases some.symm.trans some'
      cases spoken.symm.trans spoken'
      exact ih rest'

theorem Dubs.unique {x y : Except PipelineError Frame} (a : Dubs src speaker frame s p x t q)
    (b : Dubs src speaker frame s p y u r) : x = y ∧ t = u ∧ q = r := by
  cases a with
  | fault served =>
    cases b with
    | fault served' =>
      obtain ⟨same, rfl, rfl⟩ := served.unique served'
      cases same
      exact ⟨rfl, rfl, rfl⟩
    | mixed served' => cases (served.unique served').1
  | mixed served =>
    cases b with
    | fault served' => cases (served.unique served').1
    | mixed served' =>
      obtain ⟨-, rfl, rfl⟩ := served.unique served'
      exact ⟨rfl, rfl, rfl⟩

theorem DubsAll.unique {frames : List Frame}
    {steps steps' : List (Except PipelineError Frame × Pipeline)}
    (a : DubsAll src speaker s p frames steps) (b : DubsAll src speaker s p frames steps') :
    steps = steps' := by
  induction a generalizing steps' with
  | done =>
    cases b
    rfl
  | call first _ ih =>
    cases b with
    | call first' rest' =>
      obtain ⟨rfl, rfl, rfl⟩ := first.unique first'
      rw [ih rest']

/-- What speaking one cue keeps is kept while a source is served. -/
theorem Serves.keeps {P : Pipeline → Prop} {fault : Option PipelineError}
    (served : Serves src speaker now s p fault t q)
    (step : ∀ r cue, P r → P (r.speak speaker cue).2) (holds : P p) : P q := by
  induction served with
  | idle => exact holds
  | @fault _ _ p _ cue _ _ said =>
    have next := step p cue holds
    rwa [said] at next
  | @next _ _ _ p _ _ cue _ _ said _ ih =>
    have next := step p cue holds
    rw [said] at next
    exact ih next

theorem Serves.sound {h : History} {fault : Option PipelineError}
    (served : Serves src speaker now s p fault t q) (sound : p.Sound h) : ∃ k, q.Sound k := by
  refine served.keeps (P := fun r => ∃ k, r.Sound k) ?_ ⟨h, sound⟩
  rintro r cue ⟨k, sound⟩
  exact ⟨_, sound.speak speaker cue⟩

theorem Serves.target_eq {fault : Option PipelineError}
    (served : Serves src speaker now s p fault t q) : q.target = p.target :=
  served.keeps (P := (·.target = p.target)) (fun r cue same => (r.target_speak speaker cue).trans same)
    rfl

theorem Serves.exists_generation {e : PipelineError}
    (served : Serves src speaker now s p (some e) t q) : ∃ cause, e = .generation cause := by
  generalize same : some e = fault at served
  induction served with
  | idle => cases same
  | fault _ said =>
    cases same
    cases speak_fault (congrArg Prod.fst said) <;> exact ⟨_, rfl⟩
  | next _ _ _ ih => exact ih same

theorem speak_withTrack (p : Pipeline) (speaker : Speaker) (cue : Cue) (track : Subtitle.Track) :
    ({ p with track } : Pipeline).speak speaker cue =
      ((p.speak speaker cue).1, { (p.speak speaker cue).2 with track }) := by
  unfold speak
  dsimp only
  split
  · rfl
  · split <;> rfl

theorem mix_withTrack (p : Pipeline) (frame : Frame) (track : Subtitle.Track) :
    ({ p with track } : Pipeline).mix frame =
      ((p.mix frame).1, { (p.mix frame).2 with track }) := by
  unfold mix startOf
  dsimp only
  split <;> rfl

theorem serves_pull (speaker : Speaker) (now : Duration) (cues : List Cue) (p : Pipeline)
    (track : Subtitle.Track) {due later : List Cue} (span : cues.span (·.isDue now) = (due, later)) :
    Serves Subtitle.Track.pull speaker now ⟨cues⟩ { p with track } (p.speakAll speaker due).1
      ⟨(p.speakAll speaker due).2.1 ++ later⟩ { (p.speakAll speaker due).2.2 with track } := by
  rw [List.span_eq_takeWhile_dropWhile] at span
  obtain ⟨rfl, rfl⟩ := Prod.mk.inj span
  induction cues generalizing p with
  | nil => exact .idle rfl
  | cons cue cues ih =>
    by_cases due : cue.isDue now
    · have pulled : Subtitle.Track.pull ⟨cue :: cues⟩ now = (some cue, ⟨cues⟩) := if_pos due
      have said := p.speak_withTrack speaker cue track
      rw [List.takeWhile_cons_of_pos (p := (Cue.isDue · now)) due,
        List.dropWhile_cons_of_pos (p := (Cue.isDue · now)) due, speakAll]
      generalize p.speak speaker cue = r at said
      obtain ⟨_ | e, q⟩ := r
      · exact .next pulled said (ih q rfl)
      · dsimp only
        rw [List.takeWhile_append_dropWhile]
        exact .fault pulled said
    · have pulled : Subtitle.Track.pull ⟨cue :: cues⟩ now = (none, ⟨cue :: cues⟩) := if_neg due
      rw [List.takeWhile_cons_of_neg (p := (Cue.isDue · now)) due,
        List.dropWhile_cons_of_neg (p := (Cue.isDue · now)) due]
      exact .idle pulled

theorem dubs_process (p : Pipeline) (speaker : Speaker) (frame : Frame) (track : Subtitle.Track) :
    Dubs Subtitle.Track.pull speaker frame p.track { p with track } (p.process speaker frame).1
      (p.process speaker frame).2.track { (p.process speaker frame).2 with track } := by
  have span : p.track.cues.span (·.isDue (p.moment frame)) =
      ((p.due frame).1, (p.due frame).2) := rfl
  have served := serves_pull speaker (p.moment frame) p.track.cues p track span
  unfold process advance
  dsimp only
  generalize p.speakAll speaker (p.due frame).1 = r at served
  obtain ⟨_ | e, left, q⟩ := r
  · have mixed : Dubs Subtitle.Track.pull speaker frame p.track { p with track } _ _ _ :=
      .mixed served
    rw [q.mix_withTrack frame track] at mixed
    exact mixed
  · exact .fault served

def processEach (speaker : Speaker) :
    List Frame → Pipeline → List (Except PipelineError Frame × Pipeline)
  | [], _ => []
  | frame :: frames, p =>
    p.process speaker frame :: processEach speaker frames (p.process speaker frame).2

theorem dubsAll_processEach (speaker : Speaker) (frames : List Frame) (p : Pipeline)
    (track : Subtitle.Track) :
    DubsAll Subtitle.Track.pull speaker p.track { p with track } frames
      ((p.processEach speaker frames).map fun r => (r.1, { r.2 with track })) := by
  induction frames generalizing p with
  | nil => exact .done ..
  | cons frame frames ih => exact .call (p.dubs_process speaker frame track) (ih _)

end Pipeline

end Overdub
