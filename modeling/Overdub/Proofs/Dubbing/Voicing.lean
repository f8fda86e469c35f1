import Overdub.Dubbing.Pipeline
import Overdub.Proofs.Dubbing.Generation

/-!
What a voice makes of a cue. Where the voice only depends on the text, and memory does not run out,
the speech of a cue depends neither on its number nor on the queue; it is queued at once, or there
is none of it.
-/

namespace Overdub

/-- What speaks a text, whatever the number of the cue. -/
abbrev Voice := String → Except Unreachable Utterance

namespace Voice

def speaker (v : Voice) : Speaker := fun _ => v

/-- No utterance runs out of memory. -/
def HasRoom (v : Voice) : Prop := ∀ text u, v text = .ok u → u.ending ≠ .outOfMemory

end Voice

namespace Target

def utter (t : Target) (cue : Cue) (u : Utterance) : List Frame × Except GenerationError Report :=
  let speed := t.speeds.fitting u.duration.toFloat cue.duration.toFloat
  match Speed.check speed with
  | .error x => ([], .error (.speed x))
  | .ok speed =>
    match Fitter.start? u.stream t.stream t.timeBase speed with
    | .error e => ([], .error (.fit e))
    | .ok fitter =>
      let (made, result) := frames fitter (u.timeBase.ofDuration cue.start) u
      (made, result.map fun fault =>
        { duration := u.duration
          speed
          frames := made.length
          samples := (made.map Frame.length).sum
          fault })

def voiced (t : Target) (v : Voice) (cue : Cue) : List Frame × Except GenerationError Report :=
  match v cue.text with
  | .error e => ([], .error (.unreachable (requestUrl t.server cue.text) e))
  | .ok u => t.utter cue u

variable {t : Target} {v : Voice} {cue : Cue}

theorem enqueue_eq (t : Target) (id : CueId) (cue : Cue) (u : Utterance) (q : Queue) :
    t.enqueue id cue u q =
      ((t.utter cue u).2, (t.utter cue u).1.foldl (fun q x => q.push ⟨id, x⟩) q) := by
  unfold enqueue utter
  dsimp only
  cases Speed.check (t.speeds.fitting u.duration.toFloat cue.duration.toFloat) with
  | error x => rfl
  | ok speed =>
    dsimp only
    cases Fitter.start? u.stream t.stream t.timeBase speed <;> rfl

theorem generate_eq (t : Target) (v : Voice) (id : CueId) (cue : Cue) (q : Queue) :
    t.generate v.speaker id cue q =
      ((t.voiced v cue).2, (t.voiced v cue).1.foldl (fun q x => q.push ⟨id, x⟩) q) := by
  unfold generate voiced Voice.speaker
  cases v cue.text with
  | error e => rfl
  | ok u => exact t.enqueue_eq id cue u q

theorem utter_ok {u : Utterance} {report : Report} (told : (t.utter cue u).2 = .ok report) :
    report.frames = (t.utter cue u).1.length ∧
      report.samples = ((t.utter cue u).1.map Frame.length).sum := by
  unfold utter at told ⊢
  dsimp only at told ⊢
  split at told
  · cases told
  · split at told
    · cases told
    · next fitter _ =>
      cases result : (frames fitter (u.timeBase.ofDuration cue.start) u).2 with
      | error e =>
        rw [result] at told
        cases told
      | ok fault =>
        rw [result] at told
        cases told
        exact ⟨rfl, rfl⟩

/-- The time of the next sample is too late for a time stamp: the start of the speech and the time of
the frames that were made in one sum. -/
def Late (t : Target) (cue : Cue) (u : Utterance) : Prop :=
  ∃ rate_ne : t.stream.rate ≠ 0, ∃ x ∈ u.frames.head?,
    let start := Ticks.clamp (x.pts.getD 0 + u.timeBase.ofDuration cue.start)
    let n : Nat := ((t.utter cue u).1.map Frame.length).sum
    ¬ Ticks.Valid (x.timeBase.rescale start t.timeBase +
      (TimeBase.perSample t.stream.rate rate_ne).rescale (min n Ticks.most) t.timeBase)

theorem Late.ne_nil {u : Utterance} (late : t.Late cue u) : (t.utter cue u).1 ≠ [] := by
  intro nothing
  obtain ⟨_, x, _, large⟩ := late
  rw [nothing] at large
  refine large ?_
  have most := Ticks.zero_le_most
  rw [List.map_nil, List.sum_nil, Nat.cast_zero, Int.min_eq_left most, TimeBase.rescale_zero,
    Int.add_zero]
  exact Ticks.valid_clamp _

/-- An utterance that fails has made no frame, unless memory ran out or time stamps did. -/
theorem utter_error {u : Utterance} {e : GenerationError} (fault : (t.utter cue u).2 = .error e) :
    e = .outOfMemory ∧ u.ending = .outOfMemory ∨ e = .overflow ∧ t.Late cue u ∨
      (t.utter cue u).1 = [] ∧ e.isFatal = false := by
  unfold Late
  unfold utter at fault ⊢
  dsimp only at fault ⊢
  split at fault
  · cases fault
    exact .inr (.inr ⟨rfl, rfl⟩)
  · split at fault
    · cases fault
      exact .inr (.inr ⟨rfl, rfl⟩)
    · next fitter started =>
      have fresh := Fitter.fresh_of_start? started
      cases result : (frames fitter (u.timeBase.ofDuration cue.start) u).2 with
      | ok report =>
        rw [result] at fault
        cases fault
      | error e' =>
        rw [result] at fault
        cases fault
        refine (frames_error fresh result).imp id fun ⟨overflow, x, front, large⟩ => .inl ⟨overflow, ?_⟩
        have aim := fresh.target_eq
        have clock := fresh.timeBase_eq
        unfold Fitter.timeAt at large
        simp only [aim, clock] at large
        exact ⟨aim ▸ fitter.rate_ne, x, front, large⟩

theorem voiced_error_of_nil (room : v.HasRoom) (nothing : (t.voiced v cue).1 = [])
    {e : GenerationError} (fault : (t.voiced v cue).2 = .error e) : e.isFatal = false := by
  unfold voiced at fault nothing
  split at fault
  · cases fault
    rfl
  · next u spoken =>
    rw [spoken] at nothing
    rcases utter_error fault with ⟨_, full⟩ | ⟨_, late⟩ | ⟨_, mild⟩
    · exact absurd full (room _ u spoken)
    · exact absurd nothing late.ne_nil
    · exact mild

def heard (t : Target) (v : Voice) (cue : Cue) : List Frame :=
  match (t.voiced v cue).2 with
  | .ok _ => (t.voiced v cue).1
  | .error _ => []

theorem heard_of_nil (nothing : (t.voiced v cue).1 = []) : t.heard v cue = [] := by
  unfold heard
  split
  · exact nothing
  · rfl

/-- A cue of which nothing is heard. -/
inductive Silent (t : Target) (v : Voice) (cue : Cue) : Prop
  | blank (h : cue.isBlank)
  | unreachable {e : Unreachable} (h : v cue.text = .error e)
  | speed {u : Utterance} {x : Float} (h : v cue.text = .ok u)
      (rejected : Speed.check (t.speeds.fitting u.duration.toFloat cue.duration.toFloat) = .error x)
  | fit {u : Utterance} {speed : Float} {e : FitError} (h : v cue.text = .ok u)
      (checked : Speed.check (t.speeds.fitting u.duration.toFloat cue.duration.toFloat) = .ok speed)
      (rejected : Fitter.start? u.stream t.stream t.timeBase speed = .error e)
  | empty {u : Utterance} {speed : Float} {fitter : Fitter} (h : v cue.text = .ok u)
      (checked : Speed.check (t.speeds.fitting u.duration.toFloat cue.duration.toFloat) = .ok speed)
      (started : Fitter.start? u.stream t.stream t.timeBase speed = .ok fitter)
      (nothing : (frames fitter (u.timeBase.ofDuration cue.start) u).1 = [])

theorem Silent.blank_or_nil (h : t.Silent v cue) : cue.isBlank ∨ (t.voiced v cue).1 = [] := by
  cases h with
  | blank h => exact .inl h
  | unreachable h => exact .inr (by rw [voiced, h])
  | speed h rejected =>
    refine .inr ?_
    simp only [voiced, h, utter, rejected]
  | fit h checked rejected =>
    refine .inr ?_
    simp only [voiced, h, utter, checked, rejected]
  | empty h checked started nothing =>
    refine .inr ?_
    simp only [voiced, h, utter, checked, started, nothing]

end Target

end Overdub
