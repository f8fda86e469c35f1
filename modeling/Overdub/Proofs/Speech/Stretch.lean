import Overdub.Proofs.Speech.Idle
import Overdub.Proofs.Speech.Pace

/-!
Stretching speech piece by piece. A step reads only input that is already there, so it gives the
same whether more input follows or not; and it is taken while streaming only if the whole output
has room for it. So how input is cut into pieces does not change the output, whose length is the
one expected.
-/

namespace Overdub

namespace Stretch

open Pace (window hop seek)

variable {s : Stretch}

/-- What holds between steps: no input was thrown away that a later window may ask for. -/
structure Steady (s : Stretch) : Prop where
  speed_pos : 0 < s.pace.speed.mantissa
  base_le_place : s.base ≤ s.pace.place s.taken
  base_le_last : ∀ last ∈ s.last, s.base ≤ last + hop
  base_zero : s.last = none → s.base = 0
  length_overlap : s.overlap.length = hop

theorem steady_start {speed : Float} (h : start? speed = .ok s) : s.Steady := by
  unfold start? at h
  split at h
  · next usable =>
    cases h
    rw [Speed.usable, Bool.and_eq_true] at usable
    exact {
      speed_pos := Dyadic.mantissa_ofFloat_pos (of_decide_eq_true usable.2)
      base_le_place := Nat.zero_le _
      base_le_last := nofun
      base_zero := fun _ => rfl
      length_overlap := List.length_replicate }
  · cases h

def feed (s : Stretch) (more : List Float32) : Stretch :=
  { s with input := s.input ++ more, fed := s.fed + more.length }

theorem push_eq (s : Stretch) (more : List Float32) : s.push more = (s.feed more).run := rfl

theorem feed_append (s : Stretch) (xs ys : List Float32) : s.feed (xs ++ ys) = (s.feed xs).feed ys := by
  simp [feed, Nat.add_assoc]

theorem Steady.withInput (h : s.Steady) (input : List Float32) :
    ({ s with input } : Stretch).Steady :=
  ⟨h.speed_pos, h.base_le_place, h.base_le_last, h.base_zero, h.length_overlap⟩

theorem Steady.feed (h : s.Steady) (more : List Float32) : (s.feed more).Steady :=
  ⟨h.speed_pos, h.base_le_place, h.base_le_last, h.base_zero, h.length_overlap⟩

@[simp] theorem pace_feed (s : Stretch) (more : List Float32) : (s.feed more).pace = s.pace := rfl

@[simp] theorem taken_feed (s : Stretch) (more : List Float32) : (s.feed more).taken = s.taken := rfl

@[simp] theorem last_feed (s : Stretch) (more : List Float32) : (s.feed more).last = s.last := rfl

@[simp] theorem reach_feed (s : Stretch) (more : List Float32) :
    (s.feed more).reach = s.reach + more.length := by
  simp [reach, Stretch.feed, Nat.add_assoc]

theorem expected_le_feed (h : s.Steady) (more : List Float32) :
    s.expected ≤ (s.feed more).expected :=
  Pace.output_mono h.speed_pos (Nat.le_add_right _ _)

section Step

theorem length_onward (s : Stretch) (p : Nat) :
    (s.onward p).length = s.input.length - (p - s.base) := List.length_drop

theorem onward_feed {p : Nat} (low : s.base ≤ p) (high : p ≤ s.reach) (more : List Float32) :
    (s.feed more).onward p = s.onward p ++ more := by
  apply List.drop_append_of_le_length
  change p - s.base ≤ s.input.length
  unfold reach at high
  omega

theorem take_onward_feed {p : Nat} (low : s.base ≤ p) (high : p + window ≤ s.reach)
    (more : List Float32) : ((s.feed more).onward p).take window = (s.onward p).take window := by
  rw [onward_feed low (by omega)]
  apply List.take_append_of_le_length
  rw [length_onward]
  unfold reach at high
  omega

theorem similarity_append (sum : Float32) {xs ys : List Float32} (h : ys.length ≤ xs.length)
    (more : List Float32) : similarity sum (xs ++ more) ys = similarity sum xs ys := by
  induction ys generalizing xs sum with
  | nil => cases xs <;> cases more <;> rfl
  | cons y ys ih =>
    cases xs with
    | nil => cases h
    | cons x xs => exact ih _ (Nat.le_of_succ_le_succ h)

def score (s : Stretch) (last p : Nat) : Float32 :=
  similarity 0 (s.onward p) ((s.onward (last + hop)).take window)

def better (s : Stretch) (last : Nat) (best : Nat × Float32) (p : Nat) : Nat × Float32 :=
  if best.2 < s.score last p then (p, s.score last p) else best

def candidates (s : Stretch) : List Nat :=
  let place := s.pace.place s.taken
  let first := max (place - seek) s.base
  List.range' first (place + seek + 1 - first)

theorem bestStart_eq (s : Stretch) (last : Nat) :
    s.bestStart last =
      (s.candidates.foldl (s.better last)
        (s.pace.place s.taken, s.score last (s.pace.place s.taken))).1 := rfl

@[simp] theorem candidates_feed (s : Stretch) (more : List Float32) :
    (s.feed more).candidates = s.candidates := rfl

theorem mem_candidates {p : Nat} (h : p ∈ s.candidates) :
    s.base ≤ p ∧ p ≤ s.pace.place s.taken + seek := by
  rw [candidates, List.mem_range'_1] at h
  omega

theorem foldl_better (s : Stretch) (last : Nat) (ps : List Nat) (best : Nat × Float32) :
    (ps.foldl (s.better last) best).1 = best.1 ∨ (ps.foldl (s.better last) best).1 ∈ ps := by
  induction ps generalizing best with
  | nil => exact .inl rfl
  | cons p ps ih =>
    rw [List.foldl_cons]
    rcases ih (s.better last best p) with same | mem
    · rw [same, better]
      split
      · exact .inr List.mem_cons_self
      · exact .inl rfl
    · exact .inr (List.mem_cons_of_mem _ mem)

theorem bestStart_mem (h : s.Steady) (last : Nat) :
    s.base ≤ s.bestStart last ∧ s.bestStart last ≤ s.pace.place s.taken + seek := by
  rw [bestStart_eq]
  rcases foldl_better s last s.candidates (s.pace.place s.taken, _) with same | mem
  · rw [same]
    exact ⟨h.base_le_place, Nat.le_add_right _ _⟩
  · exact mem_candidates mem

theorem score_feed {last p : Nat} (lowLast : s.base ≤ last + hop)
    (highLast : last + hop + window ≤ s.reach) (low : s.base ≤ p) (high : p + window ≤ s.reach)
    (more : List Float32) : (s.feed more).score last p = s.score last p := by
  rw [score, score, take_onward_feed lowLast highLast, onward_feed low (by omega)]
  apply similarity_append
  apply Nat.le_trans (List.length_take_le _ _)
  rw [length_onward]
  unfold reach at high
  omega

theorem bestStart_feed (h : s.Steady) {last : Nat} (mem : last ∈ s.last) (enough : s.need ≤ s.reach)
    (more : List Float32) : (s.feed more).bestStart last = s.bestStart last := by
  rw [need, mem, Option.elim_some, Nat.max_le] at enough
  have lowLast := h.base_le_last last mem
  have same : ∀ p, s.base ≤ p → p ≤ s.pace.place s.taken + seek →
      (s.feed more).score last p = s.score last p := by
    intro p low high
    exact score_feed lowLast enough.2 low (by omega) more
  rw [bestStart_eq, bestStart_eq, pace_feed, taken_feed, candidates_feed,
    same _ h.base_le_place (Nat.le_add_right _ _)]
  apply congrArg Prod.fst
  apply List.foldl_ext
  intro best p mem
  obtain ⟨low, high⟩ := mem_candidates mem
  rw [better, better, same p low high]

def start (s : Stretch) : Nat := s.last.elim 0 s.bestStart

theorem start_mem (h : s.Steady) (enough : s.need ≤ s.reach) :
    s.base ≤ s.start ∧ s.start + window ≤ s.reach := by
  rw [need, Nat.max_le] at enough
  rw [start]
  cases e : s.last with
  | none =>
    have := h.base_zero e
    rw [Option.elim_none]
    omega
  | some last =>
    have := bestStart_mem h last
    rw [Option.elim_some]
    omega

theorem start_feed (h : s.Steady) (enough : s.need ≤ s.reach) (more : List Float32) :
    (s.feed more).start = s.start := by
  rw [start, start, last_feed]
  cases e : s.last with
  | none => rw [Option.elim_none, Option.elim_none]
  | some last =>
    rw [Option.elim_some, Option.elim_some]
    exact bestStart_feed h e enough more

def segment (s : Stretch) : List Float32 := (s.onward s.start).take window

def head (s : Stretch) : List Float32 :=
  if s.taken = 0 then s.segment.take hop else (s.segment.take hop).zipWith (· * ·) Window.rising

def keep (s : Stretch) : Nat := min (s.pace.place (s.taken + 1) - seek) (s.start + hop)

theorem step_eq (s : Stretch) : s.step =
    (s.overlap.zipWith (· + ·) s.head,
      { s with
        input := s.input.drop (s.keep - s.base)
        base := max s.base s.keep
        taken := s.taken + 1
        last := some s.start
        overlap := (s.segment.drop hop).zipWith (· * ·) Window.falling
        emitted := s.emitted + hop }) := rfl

/-- A step that the input suffices for does not depend on what follows. -/
theorem step_feed (h : s.Steady) (enough : s.need ≤ s.reach) (more : List Float32) :
    (s.feed more).step = (s.step.1, s.step.2.feed more) := by
  obtain ⟨low, high⟩ := start_mem h enough
  have start := start_feed h enough more
  have segment : (s.feed more).segment = s.segment := by
    rw [Stretch.segment, start, take_onward_feed low high, Stretch.segment]
  have head : (s.feed more).head = s.head := by
    rw [Stretch.head, segment, taken_feed, Stretch.head]
  have keep : (s.feed more).keep = s.keep := by
    rw [Stretch.keep, start, taken_feed, pace_feed, Stretch.keep]
  have input : (s.input ++ more).drop (s.keep - s.base) = s.input.drop (s.keep - s.base) ++ more := by
    apply List.drop_append_of_le_length
    have := Nat.min_le_right (s.pace.place (s.taken + 1) - seek) (s.start + hop)
    unfold reach window at high
    unfold Stretch.keep hop at *
    omega
  rw [step_eq, step_eq, segment, head, keep, start]
  simp only [Stretch.feed, input]

theorem length_segment (h : s.Steady) (enough : s.need ≤ s.reach) : s.segment.length = window := by
  obtain ⟨low, high⟩ := start_mem h enough
  rw [segment, List.length_take, length_onward]
  unfold reach at high
  omega

theorem length_head (h : s.Steady) (enough : s.need ≤ s.reach) : s.head.length = hop := by
  unfold head
  split <;> simp [length_segment h enough, Window.rising, window, hop]

theorem length_step (h : s.Steady) (enough : s.need ≤ s.reach) : s.step.1.length = hop := by
  rw [step_eq, List.length_zipWith, h.length_overlap, length_head h enough, Nat.min_self]

theorem Steady.step (h : s.Steady) (enough : s.need ≤ s.reach) : s.step.2.Steady := by
  obtain ⟨low, _⟩ := start_mem h enough
  have onward := s.pace.place_mono (Nat.le_add_right s.taken 1)
  have place := h.base_le_place
  rw [step_eq]
  exact {
    speed_pos := h.speed_pos
    base_le_place := by
      change max s.base s.keep ≤ s.pace.place (s.taken + 1)
      unfold keep
      omega
    base_le_last := by
      intro last mem
      cases mem
      change max s.base s.keep ≤ s.start + hop
      unfold keep
      omega
    base_zero := nofun
    length_overlap := by
      change List.length (List.zipWith _ _ _) = hop
      simp [length_segment h enough, Window.falling, window, hop] }

end Step

section Run

theorem Steady.run (h : s.Steady) : s.run.2.Steady := by
  fun_induction Stretch.run s with
  | case1 s room next rest ih => exact ih (h.step room.1)
  | case2 => exact h

theorem run_feed (h : s.Steady) (more : List Float32) :
    (s.feed more).run = (s.run.1 ++ (s.run.2.feed more).run.1, (s.run.2.feed more).run.2) := by
  fun_induction Stretch.run s with
  | case1 s room next rest ih =>
    have still : (s.feed more).need ≤ (s.feed more).reach ∧
        (s.feed more).emitted + hop ≤ (s.feed more).expected := by
      refine ⟨?_, Nat.le_trans room.2 (expected_le_feed h more)⟩
      rw [reach_feed]
      exact Nat.le_add_right_of_le room.1
    rw [Stretch.run, if_pos still, step_feed h room.1]
    dsimp only
    rw [ih (h.step room.1), List.append_assoc]
  | case2 => rfl

theorem push_append (h : s.Steady) (xs ys : List Float32) :
    s.push (xs ++ ys) = ((s.push xs).1 ++ ((s.push xs).2.push ys).1, ((s.push xs).2.push ys).2) := by
  rw [push_eq, feed_append]
  exact run_feed (h.feed xs) ys

theorem Steady.push (h : s.Steady) (more : List Float32) : (s.push more).2.Steady :=
  (h.feed more).run

end Run

section Length

theorem run_counts (h : s.Steady) (ahead : s.emitted ≤ s.expected) :
    s.run.2.emitted = s.emitted + s.run.1.length ∧ s.run.2.emitted ≤ s.run.2.expected ∧
      s.run.2.pace = s.pace ∧ s.run.2.fed = s.fed := by
  fun_induction Stretch.run s with
  | case1 s room next rest ih =>
    have length := length_step h room.1
    obtain ⟨count, still, pace, fed⟩ := ih (h.step room.1) room.2
    refine ⟨?_, still, pace, fed⟩
    rw [List.length_append, length, ← Nat.add_assoc]
    exact count
  | case2 => exact ⟨rfl, ahead, rfl, rfl⟩

theorem exhaust_counts (h : s.Steady) :
    s.exhaust.2.emitted = s.emitted + s.exhaust.1.length ∧ s.expected ≤ s.exhaust.2.emitted ∧
      s.exhaust.2.expected = s.expected := by
  fun_induction Stretch.exhaust s with
  | case1 s short enough next rest ih =>
    have length := length_step h enough
    obtain ⟨count, all, same⟩ := ih (h.step enough)
    refine ⟨?_, all, same⟩
    rw [List.length_append, length, ← Nat.add_assoc]
    exact count
  | case2 s short few ih => exact ih (h.withInput _)
  | case3 s whole => exact ⟨rfl, Nat.le_of_not_lt whole, rfl⟩

theorem length_flush (h : s.Steady) (ahead : s.emitted ≤ s.expected) :
    s.flush.1.length = s.expected - s.emitted := by
  obtain ⟨count, all, same⟩ := exhaust_counts h
  unfold Stretch.flush
  generalize s.exhaust = r at count all same
  obtain ⟨out, t⟩ := r
  dsimp only at count all same ⊢
  rw [List.length_take]
  omega

theorem length_push_flush (h : s.Steady) (ahead : s.emitted ≤ s.expected) (xs : List Float32) :
    s.emitted + ((s.push xs).1 ++ (s.push xs).2.flush.1).length = s.pace.output (s.fed + xs.length) := by
  have fed := h.feed xs
  obtain ⟨count, still, pace, input⟩ :=
    run_counts fed (Nat.le_trans ahead (expected_le_feed h xs))
  have expected : (s.feed xs).run.2.expected = s.pace.output (s.fed + xs.length) := by
    rw [Stretch.expected, pace, input]
    rfl
  have start : (s.feed xs).emitted = s.emitted := rfl
  rw [push_eq, List.length_append, length_flush fed.run still, ← expected]
  omega

end Length

end Stretch

end Overdub
