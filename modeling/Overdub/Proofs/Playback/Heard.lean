import Overdub.Proofs.Playback.Overlay

/-!
Whose speech a pass lays. Every queued sample speaks for a cue; the cues noted as heard are those
of the samples that were laid, once for each run of them, and a cue has ended when a frame was
used up and the next one belongs to another cue.
-/

namespace Overdub

def Queue.voices (frames : List QueuedFrame) : List CueId :=
  frames.flatMap fun f => List.replicate f.frame.length f.cue

namespace Queue

theorem voices_cons (f : QueuedFrame) (frames : List QueuedFrame) :
    voices (f :: frames) = List.replicate f.frame.length f.cue ++ voices frames := rfl

@[simp] theorem voices_append (fs gs : List QueuedFrame) : voices (fs ++ gs) = voices fs ++ voices gs :=
  List.flatMap_append

@[simp] theorem length_voices (frames : List QueuedFrame) : (voices frames).length = count frames := by
  induction frames with
  | nil => rfl
  | cons f frames ih =>
    rw [voices_cons, List.length_append, List.length_replicate, ih]
    rfl

theorem mem_voices_drop {frames : List QueuedFrame} (hp : ∀ f ∈ frames, 0 < f.frame.length)
    {offset : Nat} (ho : Within offset frames) (x : CueId) :
    x ∈ (voices frames).drop offset ↔ x ∈ frames.map (·.cue) := by
  have whole : ∀ frames : List QueuedFrame, (∀ f ∈ frames, 0 < f.frame.length) →
      (x ∈ voices frames ↔ x ∈ frames.map (·.cue)) := by
    intro frames hp
    simp only [voices, List.mem_flatMap, List.mem_replicate, List.mem_map]
    constructor
    · rintro ⟨f, mem, _, rfl⟩
      exact ⟨f, mem, rfl⟩
    · rintro ⟨f, mem, rfl⟩
      exact ⟨f, mem, Nat.pos_iff_ne_zero.mp (hp f mem), rfl⟩
  cases frames with
  | nil => simp [voices]
  | cons f frames =>
    have below : offset < f.frame.length := by
      rcases ho with rfl | ⟨f', front, lt⟩
      · exact hp f List.mem_cons_self
      · cases front
        exact lt
    have rest := whole frames fun f mem => hp f (List.mem_cons_of_mem _ mem)
    rw [voices_cons, List.drop_append_of_le_length (by simpa using Nat.le_of_lt below),
      List.drop_replicate, List.mem_append, rest, List.map_cons, List.mem_cons, List.mem_replicate]
    have more : f.frame.length - offset ≠ 0 := by omega
    simp [more]

end Queue

namespace Mixer

open Queue (Within voices voices_cons)

/-- The heads of the runs of equal cues, less one that only goes on from `last`. -/
def runs : Option CueId → List CueId → List CueId
  | _, [] => []
  | last, x :: xs => if last = some x then runs last xs else x :: runs (some x) xs

/-- The cues of `xs` that are not the next ones in `xs` or at the head of `rest`. -/
def ends : List CueId → List CueId → List CueId
  | [], _ => []
  | x :: xs, rest => (if (xs ++ rest).head? = some x then [] else [x]) ++ ends xs rest

theorem runs_replicate_append (last : Option CueId) (n : Nat) (x : CueId) (ys : List CueId) :
    runs last (List.replicate n x ++ ys) = noted n last x ++ runs (lastAfter n last x) ys := by
  -- Once `x` is noted, more of it is passed over.
  have again : ∀ n, runs (some x) (List.replicate n x ++ ys) = runs (some x) ys := by
    intro n
    induction n with
    | zero => rfl
    | succ n ih => simpa [List.replicate_succ, runs] using ih
  cases n with
  | zero => simp [noted, lastAfter]
  | succ n =>
    by_cases same : last = some x
    · subst same
      rw [again]
      simp [noted, lastAfter]
    · simp [List.replicate_succ, runs, noted, lastAfter, same, again]

theorem mem_runs {last : Option CueId} {xs : List CueId} {x : CueId} :
    x ∈ runs last xs → x ∈ xs := by
  induction xs generalizing last with
  | nil => exact id
  | cons y xs ih =>
    intro h
    rw [runs] at h
    split at h
    · exact List.mem_cons_of_mem _ (ih h)
    · rcases List.mem_cons.mp h with rfl | h
      · exact List.mem_cons_self
      · exact List.mem_cons_of_mem _ (ih h)

theorem mem_runs_or {last : Option CueId} {xs : List CueId} {x : CueId} (h : x ∈ xs) :
    x ∈ runs last xs ∨ last = some x := by
  induction xs generalizing last with
  | nil => cases h
  | cons y xs ih =>
    rw [runs]
    rcases List.mem_cons.mp h with rfl | h
    · by_cases same : last = some x
      · exact .inr same
      · rw [if_neg same]
        exact .inl List.mem_cons_self
    · split
      · exact ih h
      · have later : x ∈ runs (some y) xs ∨ some y = some x := ih h
        rcases later with mem | e
        · exact .inl (List.mem_cons_of_mem _ mem)
        · cases e
          exact .inl List.mem_cons_self

theorem mem_runs_none {xs : List CueId} {x : CueId} : x ∈ runs none xs ↔ x ∈ xs :=
  ⟨mem_runs, fun h => (mem_runs_or h).resolve_right nofun⟩

def Grouped : List CueId → Prop
  | [] => True
  | x :: xs => (x ∈ xs → xs.head? = some x) ∧ Grouped xs

theorem grouped_of_sorted {xs : List CueId} (h : xs.Pairwise (· ≤ ·)) : Grouped xs := by
  induction xs with
  | nil => trivial
  | cons x xs ih =>
    obtain ⟨least, sorted⟩ := List.pairwise_cons.mp h
    refine ⟨?_, ih sorted⟩
    intro mem
    cases xs with
    | nil => cases mem
    | cons y xs =>
      have up := least y List.mem_cons_self
      rcases List.mem_cons.mp mem with rfl | later
      · rfl
      · have down := (List.pairwise_cons.mp sorted).1 x later
        rw [List.head?_cons, Nat.le_antisymm down up]

theorem mem_of_mem_ends {xs rest : List CueId} {x : CueId} (h : x ∈ ends xs rest) : x ∈ xs := by
  induction xs with
  | nil => exact h
  | cons y xs ih =>
    rcases List.mem_append.mp h with h | h
    · split at h
      · cases h
      · exact List.mem_singleton.mp h ▸ List.mem_cons_self
    · exact List.mem_cons_of_mem _ (ih h)

theorem mem_ends {xs rest : List CueId} (h : Grouped (xs ++ rest)) (x : CueId) :
    x ∈ ends xs rest ↔ x ∈ xs ∧ x ∉ rest := by
  induction xs with
  | nil => simp [ends]
  | cons y xs ih =>
    obtain ⟨next, h⟩ := h
    rw [ends, List.mem_append, ih h]
    split
    · next same =>
      cases xs with
      | nil =>
        have mem : y ∈ rest := List.mem_of_mem_head? same
        constructor
        · rintro (h | ⟨h, _⟩) <;> cases h
        · rintro ⟨h, out⟩
          cases List.mem_singleton.mp h
          exact absurd mem out
      | cons z xs =>
        cases same
        simp
    · next other =>
      -- Equal cues stand together, so a cue that is not the next one does not come again.
      have out : y ∉ xs ++ rest := fun mem => other (next mem)
      rw [List.mem_append, not_or] at out
      rw [List.mem_singleton, List.mem_cons]
      constructor
      · rintro (rfl | ⟨mem, h⟩)
        · exact ⟨.inl rfl, out.2⟩
        · exact ⟨.inr mem, h⟩
      · rintro ⟨rfl | mem, h⟩
        · exact .inl rfl
        · exact .inr ⟨mem, h⟩

theorem nodup_ends {xs rest : List CueId} (h : Grouped (xs ++ rest)) : (ends xs rest).Nodup := by
  induction xs with
  | nil => exact List.nodup_nil
  | cons y xs ih =>
    obtain ⟨next, h⟩ := h
    rw [ends]
    split
    · exact ih h
    · next other =>
      apply List.nodup_cons.mpr
      refine ⟨?_, ih h⟩
      intro mem
      exact other (next (List.mem_append_left _ ((mem_ends h y).mp mem).1))

namespace Lays

variable {g : Gains} {fmt : Format} {c : Nat} {slices : List (Slice fmt.kind c)} {offset : Nat}
  {last : Option CueId} {frames : List QueuedFrame} {p : Pass fmt.kind c}

theorem voices_eq (h : Lays g slices offset last frames p) :
    (voices p.frames).drop p.offset = ((voices frames).drop offset).drop slices.length := by
  induction h with
  | empty => simp [voices]
  | done => simp
  | stop => rw [List.drop_drop]
  | @pop slices offset last f frames s p hs below few _ ih =>
    rw [Frame.length_of_slicesAs? hs] at *
    rw [voices_cons, List.drop_append_of_le_length (by simpa using below), List.drop_append,
      List.drop_replicate, List.drop_replicate, List.length_replicate, Nat.sub_eq_zero_of_le few]
    simpa using ih

theorem touched_eq (h : Lays g slices offset last frames p) {o : Outcome} (ho : p.outcome = .ok o) :
    o.touched = runs last (((voices frames).drop offset).take slices.length) := by
  induction h generalizing o with
  | empty =>
    cases ho
    simp [voices, runs]
  | done =>
    cases ho
    rfl
  | @stop slices offset last f frames s hs more =>
    cases ho
    rw [Frame.length_of_slicesAs? hs] at more
    rw [voices_cons, List.drop_append_of_le_length (by simp; omega), List.drop_replicate,
      List.take_append_of_le_length (by simp; omega), List.take_replicate,
      Nat.min_eq_left (by omega), ← List.append_nil (List.replicate _ _), runs_replicate_append]
    simp [runs]
  | @pop slices offset last f frames s p hs below few rest ih =>
    obtain ⟨o', e, _⟩ := rest.exists_outcome
    rw [Pass.outcome_after e] at ho
    cases ho
    rw [ih e, Frame.length_of_slicesAs? hs] at *
    rw [voices_cons, List.drop_append_of_le_length (by simpa using below), List.drop_replicate,
      List.take_append, List.take_replicate, List.length_replicate, Nat.min_eq_right few,
      runs_replicate_append, List.length_drop, List.drop_zero]

theorem exists_retired (h : Lays g slices offset last frames p) {o : Outcome}
    (ho : p.outcome = .ok o) :
    ∃ used, frames = used ++ p.frames ∧
      o.retired = ends (used.map (·.cue)) (p.frames.map (·.cue)) := by
  induction h generalizing o with
  | empty =>
    cases ho
    exact ⟨[], rfl, rfl⟩
  | done =>
    cases ho
    exact ⟨[], rfl, rfl⟩
  | stop =>
    cases ho
    exact ⟨[], rfl, rfl⟩
  | @pop slices offset last f frames s p hs below few rest ih =>
    obtain ⟨o', e, _⟩ := rest.exists_outcome
    rw [Pass.outcome_after e] at ho
    cases ho
    obtain ⟨used, split, retired⟩ := ih e
    refine ⟨f :: used, by rw [split]; rfl, ?_⟩
    rw [retired, Pass.frames_after, List.map_cons, ends, ← List.map_append, ← split, List.head?_map]
    rfl

end Lays

end Mixer

end Overdub
