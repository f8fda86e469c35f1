import Overdub.Proofs.Speech.Idle
import Overdub.Proofs.Speech.Stages
import Overdub.Proofs.Time.Rescale

/-!
What a fitter gives: the output of its stages in pieces, one frame each, every frame stamped with
the samples before it.
-/

namespace Overdub

def Frame.downmix (x : Frame) : List Float32 := x.slices.map Slice.mean

def Frame.Meets (x y : Frame) : Prop :=
  ∃ s ∈ x.pts, ∃ t ∈ y.pts, t ≤ s + x.length

namespace Fitter

def Accepts (f : Fitter) (x : Frame) : Prop :=
  x.stream.rate = f.source.rate ∧ x.stream.channels = f.source.channels

instance (f : Fitter) (x : Frame) : Decidable (f.Accepts x) := inferInstanceAs (Decidable (_ ∧ _))

def stages (f : Fitter) : Stages := ⟨f.inward, f.stretch, f.outward⟩

def pushEach (f : Fitter) : List Frame → Except FitError (List Frame × Fitter)
  | [] => .ok ([], f)
  | x :: xs =>
    match f.push x with
    | .error e => .error e
    | .ok (out, f) => (f.pushEach xs).map fun r => (out.toList ++ r.1, r.2)

/-- Pushes all frames and flushes. -/
def fit (f : Fitter) (xs : List Frame) : Except FitError (List Frame) := do
  let (us, g) ← f.pushEach xs
  let (rest, _) ← g.flush
  return us ++ rest.toList

def anchor (f : Fitter) (x : Frame) : Fitter :=
  { f with origin := f.origin <|> x.pts.map fun pts => x.timeBase.rescale pts f.timeBase }

def withStages (f : Fitter) (c : Stages) : Fitter :=
  { f with inward := c.inward, stretch := c.stretch, outward := c.outward }

-- The same where time stamps may be of any size, of frames that are accepted.
namespace Exact

def push (f : Fitter) (x : Frame) : Option Frame × Fitter :=
  ((f.anchor x).withStages (f.stages.push x.downmix).2).stamp (f.stages.push x.downmix).1

def flush (f : Fitter) : Option Frame × Fitter :=
  (f.withStages f.stages.flushed).stamp f.stages.flush

def pushEach (f : Fitter) : List Frame → List Frame × Fitter
  | [] => ([], f)
  | x :: xs =>
    let (out, f) := push f x
    let (rest, f) := pushEach f xs
    (out.toList ++ rest, f)

def fit (f : Fitter) (xs : List Frame) : List Frame :=
  let (us, g) := pushEach f xs
  us ++ (flush g).1.toList

end Exact

def timeAt (f : Fitter) (origin : Int) (n : Nat) : Int :=
  origin + (TimeBase.perSample f.target.rate f.rate_ne).rescale (min n Ticks.most) f.timeBase

def piece (f : Fitter) (origin : Option Int) (n : Nat) (xs : List Float32) : Frame where
  stream := f.target
  timeBase := f.timeBase
  pts := origin.map (f.timeAt · n)
  slices := xs.map fun x => .replicate _ (f.target.format.kind.ofSingle (.ofFloat x))
  rate_ne := f.rate_ne
  channels_pos := f.channels_pos

/-- Pieces in a row from place `n` on, each with the origin that was known by then. -/
def pieces (f : Fitter) : Nat → List (Option Int × List Float32) → List Frame
  | _, [] => []
  | n, p :: ps => f.piece p.1 n p.2 :: f.pieces (n + p.2.length) ps

variable {f g h : Fitter}

theorem pieces_append (f : Fitter) (n : Nat) (ps qs : List (Option Int × List Float32)) :
    f.pieces n (ps ++ qs) = f.pieces n ps ++ f.pieces (n + (ps.flatMap (·.2)).length) qs := by
  induction ps generalizing n with
  | nil => rfl
  | cons p ps ih => simp [pieces, ih, Nat.add_assoc]

theorem timeAt_congr (target : g.target = f.target) (timeBase : g.timeBase = f.timeBase) :
    g.timeAt = f.timeAt := by
  obtain ⟨⟩ := f
  obtain ⟨⟩ := g
  cases target
  cases timeBase
  rfl

@[simp] theorem timeAt_zero (f : Fitter) (origin : Int) : f.timeAt origin 0 = origin := by
  have most := Ticks.zero_le_most
  rw [timeAt, Nat.cast_zero, Int.min_eq_left most, TimeBase.rescale_zero, Int.add_zero]

theorem pieces_congr (target : g.target = f.target) (timeBase : g.timeBase = f.timeBase) (n : Nat)
    (ps : List (Option Int × List Float32)) : g.pieces n ps = f.pieces n ps := by
  have one : g.piece = f.piece := by
    obtain ⟨⟩ := f
    obtain ⟨⟩ := g
    cases target
    cases timeBase
    rfl
  induction ps generalizing n with
  | nil => rfl
  | cons p ps ih => rw [pieces, pieces, one, ih]

@[simp] theorem length_piece (f : Fitter) (o : Option Int) (n : Nat) (xs : List Float32) :
    (f.piece o n xs).length = xs.length :=
  List.length_map _

theorem length_pieces (f : Fitter) (n : Nat) (ps : List (Option Int × List Float32)) :
    ((f.pieces n ps).map Frame.length).sum = (ps.flatMap (·.2)).length := by
  induction ps generalizing n with
  | nil => rfl
  | cons p ps ih =>
    rw [pieces, List.map_cons, List.sum_cons, ih, length_piece, List.flatMap_cons, List.length_append]

@[simp] theorem pts_piece_zero (f : Fitter) (o : Option Int) (xs : List Float32) :
    (f.piece o 0 xs).pts = o := by
  cases o <;> simp [piece]

theorem pts_piece (clock : f.timeBase = .perSample f.target.rate f.rate_ne) (o : Int) (n : Nat)
    (xs : List Float32) : (f.piece (some o) n xs).pts = some (o + min (n : Int) Ticks.most) := by
  have low := Ticks.least_le_zero
  have high := Ticks.zero_le_most
  unfold piece timeAt
  dsimp only
  rw [clock, TimeBase.rescale_self_of_mem _ (by omega) (Int.min_le_right _ _)]
  rfl

theorem pieces_meets (clock : f.timeBase = .perSample f.target.rate f.rate_ne) {o : Int} (n : Nat)
    {ps : List (Option Int × List Float32)} (known : ∀ p ∈ ps, p.1 = some o) :
    (f.pieces n ps).IsChain Frame.Meets := by
  induction ps generalizing n with
  | nil => exact .nil
  | cons p ps ih =>
    have rest := ih (n + p.2.length) fun q mem => known q (List.mem_cons_of_mem _ mem)
    cases ps with
    | nil => exact .singleton _
    | cons q ps =>
      refine .cons_cons ?_ rest
      rw [known p List.mem_cons_self, known q (List.mem_cons_of_mem _ List.mem_cons_self)]
      refine ⟨_, pts_piece clock .., _, pts_piece clock .., ?_⟩
      rw [length_piece, Nat.cast_add]
      omega

theorem exists_piece_of_split {n : Nat} {ps : List (Option Int × List Float32)}
    {before after : List Frame} {y : Frame} (h : f.pieces n ps = before ++ y :: after) :
    ∃ p ∈ ps, y = f.piece p.1 (n + (before.map Frame.length).sum) p.2 := by
  induction ps generalizing n before with
  | nil => exact absurd h.symm (List.append_ne_nil_of_right_ne_nil _ (List.cons_ne_nil _ _))
  | cons p ps ih =>
    cases before with
    | nil =>
      cases h
      exact ⟨p, List.mem_cons_self, rfl⟩
    | cons x before =>
      injection h with head tail
      obtain ⟨q, mem, e⟩ := ih tail
      refine ⟨q, List.mem_cons_of_mem _ mem, ?_⟩
      rw [e, List.map_cons, List.sum_cons, ← head, length_piece, Nat.add_assoc]

theorem stamped_of_mem_pieces (clock : f.timeBase = .perSample f.target.rate f.rate_ne) {o : Int}
    {ps : List (Option Int × List Float32)} (known : ∀ p ∈ ps, p.1 = some o) (low : Ticks.least ≤ o)
    (room : o + ((ps.flatMap (·.2)).length : Nat) ≤ Ticks.most) {y : Frame}
    (mem : y ∈ f.pieces 0 ps) : y.Stamped := by
  obtain ⟨before, after, split⟩ := List.append_of_mem mem
  obtain ⟨p, own, rfl⟩ := exists_piece_of_split split
  have early : (before.map Frame.length).sum ≤ (ps.flatMap (·.2)).length := by
    rw [← f.length_pieces 0 ps, split, List.map_append, List.sum_append]
    exact Nat.le_add_right _ _
  intro t stamp
  rw [known p own, pts_piece clock] at stamp
  cases stamp
  have most := Ticks.zero_le_most
  unfold Ticks.Valid
  omega

/-- From `f` to `g` the `frames` were given, which hold `samples`. An origin that is known stays as
it is. -/
structure Gives (f : Fitter) (frames : List Frame) (samples : List Float32) (g : Fitter) : Prop where
  source_eq : g.source = f.source
  target_eq : g.target = f.target
  timeBase_eq : g.timeBase = f.timeBase
  emitted_eq : g.emitted = f.emitted + samples.length
  origin : ∀ o ∈ f.origin, o ∈ g.origin
  exists_pieces : ∃ ps, frames = f.pieces f.emitted ps ∧ ps.flatMap (·.2) = samples ∧
    ∀ p ∈ ps, p.2 ≠ [] ∧ (∀ o ∈ f.origin, o ∈ p.1) ∧ ∀ o ∈ p.1, o ∈ g.origin

namespace Gives

theorem nothing (f : Fitter) : Gives f [] [] f :=
  ⟨rfl, rfl, rfl, rfl, fun _ e => e, [], rfl, rfl, nofun⟩

theorem trans {xs ys : List Float32} {us vs : List Frame} (a : Gives f us xs g)
    (b : Gives g vs ys h) : Gives f (us ++ vs) (xs ++ ys) h where
  source_eq := b.source_eq.trans a.source_eq
  target_eq := b.target_eq.trans a.target_eq
  timeBase_eq := b.timeBase_eq.trans a.timeBase_eq
  emitted_eq := by rw [b.emitted_eq, a.emitted_eq, List.length_append, Nat.add_assoc]
  origin o e := b.origin o (a.origin o e)
  exists_pieces := by
    obtain ⟨ps, frames, samples, each⟩ := a.exists_pieces
    obtain ⟨qs, frames', samples', each'⟩ := b.exists_pieces
    refine ⟨ps ++ qs, ?_, by rw [List.flatMap_append, samples, samples'], ?_⟩
    · rw [pieces_append, samples, frames, frames', a.emitted_eq,
        pieces_congr a.target_eq a.timeBase_eq]
    · intro p mem
      rcases List.mem_append.mp mem with mem | mem
      · obtain ⟨some, early, late⟩ := each p mem
        exact ⟨some, early, fun o e => b.origin o (late o e)⟩
      · obtain ⟨some, early, late⟩ := each' p mem
        exact ⟨some, fun o e => early o (a.origin o e), late⟩

theorem stamp (f : Fitter) (xs : List Float32) :
    Gives f (f.stamp xs).1.toList xs (f.stamp xs).2 := by
  unfold Fitter.stamp
  split
  · next empty =>
    rw [List.isEmpty_iff.mp empty]
    exact .nothing f
  · next some =>
    refine ⟨rfl, rfl, rfl, rfl, fun _ e => e, [(f.origin, xs)], rfl, List.append_nil xs, ?_⟩
    intro p mem
    cases List.mem_singleton.mp mem
    exact ⟨fun nil => some (List.isEmpty_iff.mpr nil), fun _ e => e, fun _ e => e⟩

theorem sum_length {us : List Frame} {xs : List Float32} (a : Gives f us xs g) :
    (us.map Frame.length).sum = xs.length := by
  obtain ⟨ps, rfl, samples, _⟩ := a.exists_pieces
  rw [length_pieces, samples]

theorem of_eq {us : List Frame} {xs : List Float32} (a : Gives g us xs h)
    (source : g.source = f.source) (target : g.target = f.target)
    (timeBase : g.timeBase = f.timeBase) (emitted : g.emitted = f.emitted)
    (origin : ∀ o ∈ f.origin, o ∈ g.origin) : Gives f us xs h where
  source_eq := a.source_eq.trans source
  target_eq := a.target_eq.trans target
  timeBase_eq := a.timeBase_eq.trans timeBase
  emitted_eq := a.emitted_eq.trans (by rw [emitted])
  origin o e := a.origin o (origin o e)
  exists_pieces := by
    obtain ⟨ps, frames, samples, each⟩ := a.exists_pieces
    refine ⟨ps, ?_, samples, ?_⟩
    · rw [frames, emitted, pieces_congr target timeBase]
    · intro p mem
      obtain ⟨some, early, late⟩ := each p mem
      exact ⟨some, fun o e => early o (origin o e), late⟩

end Gives

theorem anchor_anchor (f : Fitter) (x : Frame) : (f.anchor x).anchor x = f.anchor x := by
  unfold anchor
  congr 1
  cases f.origin <;> cases x.pts <;> rfl

theorem mem_origin_anchor (f : Fitter) (x : Frame) : ∀ o ∈ f.origin, o ∈ (f.anchor x).origin := by
  intro o e
  rw [anchor, Option.mem_def.mp e]
  rfl

theorem gives_stamp (f : Fitter) (c : Stages) (xs : List Float32) :
    Gives f ((f.withStages c).stamp xs).1.toList xs ((f.withStages c).stamp xs).2 :=
  (Gives.stamp _ xs).of_eq rfl rfl rfl rfl fun _ e => e

theorem stages_stamp (f : Fitter) (xs : List Float32) : (f.stamp xs).2.stages = f.stages := by
  unfold stamp
  split <;> rfl

theorem origin_stamp (f : Fitter) (xs : List Float32) : (f.stamp xs).2.origin = f.origin := by
  unfold stamp
  split <;> rfl

theorem bounded_eq_ok_iff {p q : Option Frame × Fitter} :
    bounded p = .ok q ↔ p = q ∧ ∀ x ∈ q.1, x.Stamped := by
  unfold bounded
  split
  · next fits =>
    constructor
    · rintro ⟨⟩
      exact ⟨rfl, fits⟩
    · rintro ⟨rfl, _⟩
      rfl
  · next exceeds =>
    constructor
    · rintro ⟨⟩
    · rintro ⟨rfl, fits⟩
      exact absurd fits exceeds

theorem exists_of_bounded_error {p : Option Frame × Fitter} {e : FitError} (h : bounded p = .error e) :
    e = .overflow ∧ ∃ x ∈ p.1, ¬ x.Stamped := by
  unfold bounded at h
  split at h
  · cases h
  · next exceeds =>
    cases h
    refine ⟨rfl, ?_⟩
    push Not at exceeds
    exact exceeds

theorem exists_of_not_stamped {xs : List Float32} {x : Frame} (given : x ∈ (f.stamp xs).1)
    (large : ¬ x.Stamped) : ∃ o ∈ f.origin, ¬ Ticks.Valid (f.timeAt o f.emitted) := by
  unfold stamp at given
  split at given
  · cases given
  · cases given
    unfold Frame.Stamped at large
    push Not at large
    obtain ⟨t, stamp, large⟩ := large
    obtain ⟨o, origin, rfl⟩ := Option.map_eq_some_iff.mp stamp
    exact ⟨o, origin, large⟩

theorem push_eq {x : Frame} (h : f.Accepts x) : f.push x = bounded (Exact.push f x) := by
  refine (if_pos h).trans ?_
  obtain ⟨source, target, timeBase, inward, stretch, outward, origin, emitted, hr, hc⟩ := f
  cases stretch <;> rfl

theorem flush_eq (f : Fitter) : f.flush = bounded (Exact.flush f) := by
  obtain ⟨source, target, timeBase, inward, stretch, outward, origin, emitted, hr, hc⟩ := f
  cases stretch with
  | none =>
    unfold Exact.flush stages Stages.flush Stages.flushed Stretch.push? Stretch.flush?
    dsimp only
    rw [List.append_nil]
    rfl
  | some s => rfl

theorem accepts_of_push {x : Frame} {r : Option Frame × Fitter} (h : f.push x = .ok r) :
    f.Accepts x := by
  unfold push at h
  split at h
  · next accepts => exact accepts
  · cases h

theorem gives_push (f : Fitter) (x : Frame) :
    Gives (f.anchor x) (Exact.push f x).1.toList (f.stages.push x.downmix).1 (Exact.push f x).2 :=
  gives_stamp ..

theorem gives_flush (f : Fitter) :
    Gives f (Exact.flush f).1.toList f.stages.flush (Exact.flush f).2 :=
  gives_stamp ..

theorem push_anchor (f : Fitter) (x : Frame) : (f.anchor x).push x = f.push x := by
  have origin := congrArg Fitter.origin (f.anchor_anchor x)
  unfold push
  dsimp only [anchor] at origin ⊢
  simp only [origin]

theorem exists_of_push_overflow {x : Frame} (h : f.push x = .error .overflow) :
    ∃ o ∈ (f.anchor x).origin, ¬ Ticks.Valid (f.timeAt o f.emitted) := by
  have accepts : f.Accepts x := by
    refine Decidable.byContradiction fun other => ?_
    cases (if_neg other).symm.trans h
  rw [push_eq accepts] at h
  obtain ⟨_, y, given, large⟩ := exists_of_bounded_error h
  exact exists_of_not_stamped (f := (f.anchor x).withStages _) given large

theorem exists_of_flush_error {e : FitError} (h : f.flush = .error e) :
    e = .overflow ∧ ∃ o ∈ f.origin, ¬ Ticks.Valid (f.timeAt o f.emitted) := by
  rw [flush_eq] at h
  obtain ⟨rfl, y, given, large⟩ := exists_of_bounded_error h
  exact ⟨rfl, exists_of_not_stamped (f := f.withStages _) given large⟩

theorem exists_gives_of_push {x : Frame} {out : Option Frame} (h : f.push x = .ok (out, g)) :
    ∃ samples, Gives (f.anchor x) out.toList samples g := by
  have pushed := push_eq (accepts_of_push h)
  rw [h] at pushed
  obtain ⟨exact, -⟩ := bounded_eq_ok_iff.mp pushed.symm
  have gives := f.gives_push x
  rw [exact] at gives
  exact ⟨_, gives⟩

theorem exists_gives_of_flush {out : Option Frame} (h : f.flush = .ok (out, g)) :
    ∃ samples, Gives f out.toList samples g := by
  rw [flush_eq] at h
  have gives := f.gives_flush
  rw [(bounded_eq_ok_iff.mp h).1] at gives
  exact ⟨_, gives⟩

theorem Gives.meets {us : List Frame} {xs : List Float32} (h : Gives f us xs g)
    (clock : f.timeBase = .perSample f.target.rate f.rate_ne) (known : f.origin.isSome) :
    us.IsChain Frame.Meets := by
  obtain ⟨o, origin⟩ := Option.isSome_iff_exists.mp known
  obtain ⟨ps, rfl, _, each⟩ := h.exists_pieces
  exact pieces_meets clock _ fun p mem => (each p mem).2.1 o origin

theorem accepts_push (f : Fitter) (x y : Frame) : (Exact.push f x).2.Accepts y ↔ f.Accepts y := by
  unfold Accepts
  rw [(f.gives_push x).source_eq]
  rfl

theorem pushEach_gives (xs : List Frame) (steady : f.stages.Steady) (still : f.stages.Still) :
    Gives f (Exact.pushEach f xs).1 (f.stages.push (xs.flatMap Frame.downmix)).1
        (Exact.pushEach f xs).2 ∧
      (Exact.pushEach f xs).2.stages = (f.stages.push (xs.flatMap Frame.downmix)).2 ∧
      ((∀ x ∈ xs, x.pts = none) → (Exact.pushEach f xs).2.origin = f.origin) := by
  induction xs generalizing f with
  | nil =>
    rw [List.flatMap_nil, still]
    exact ⟨.nothing f, rfl, fun _ => rfl⟩
  | cons x xs ih =>
    have first := f.gives_push x
    have next : (Exact.push f x).2.stages = (f.stages.push x.downmix).2 := stages_stamp ..
    have learnt : (Exact.push f x).2.origin = (f.anchor x).origin := origin_stamp ..
    obtain ⟨gives, last, same⟩ :=
      ih (f := (Exact.push f x).2) (next ▸ steady.push _) (next ▸ Stages.still_push steady _)
    rw [next] at gives last
    refine ⟨?_, ?_, ?_⟩
    · rw [List.flatMap_cons, Stages.push_append steady]
      exact (Gives.of_eq (f := f) first rfl rfl rfl rfl (f.mem_origin_anchor x)).trans gives
    · rw [List.flatMap_cons, Stages.push_append steady]
      exact last
    · intro unknown
      refine (same fun y mem => unknown y (List.mem_cons_of_mem _ mem)).trans (learnt.trans ?_)
      change (f.origin <|> x.pts.map _) = _
      rw [unknown x List.mem_cons_self]
      cases f.origin <;> rfl

theorem fit_gives (xs : List Frame) (steady : f.stages.Steady) (still : f.stages.Still) :
    ∃ g, Gives f (Exact.fit f xs) (f.stages.whole (xs.flatMap Frame.downmix)) g ∧
      ((∀ x ∈ xs, x.pts = none) → g.origin = f.origin) := by
  obtain ⟨gives, next, same⟩ := pushEach_gives xs steady still
  have last := (Exact.pushEach f xs).2.gives_flush
  have kept : (Exact.flush (Exact.pushEach f xs).2).2.origin = (Exact.pushEach f xs).2.origin :=
    origin_stamp ..
  rw [next] at last
  exact ⟨_, gives.trans last, fun unknown => kept.trans (same unknown)⟩

theorem pushEach_eq {xs : List Frame} (h : ∀ x ∈ xs, f.Accepts x) : f.pushEach xs =
    if ∀ y ∈ (Exact.pushEach f xs).1, y.Stamped then .ok (Exact.pushEach f xs)
    else .error .overflow := by
  induction xs generalizing f with
  | nil => rfl
  | cons x xs ih =>
    have rest := ih (f := (Exact.push f x).2) fun y mem =>
      (f.accepts_push x y).mpr (h y (List.mem_cons_of_mem _ mem))
    have both : (∀ y ∈ (Exact.pushEach f (x :: xs)).1, y.Stamped) ↔
        (∀ y ∈ (Exact.push f x).1, y.Stamped) ∧
          ∀ y ∈ (Exact.pushEach (Exact.push f x).2 xs).1, y.Stamped := by
      simp only [Exact.pushEach, List.forall_mem_append, Option.mem_toList, Option.mem_def]
    rw [pushEach, push_eq (h x List.mem_cons_self), bounded]
    by_cases head : ∀ y ∈ (Exact.push f x).1, y.Stamped
    · rw [if_pos head]
      change Except.map _ ((Exact.push f x).2.pushEach xs) = _
      rw [rest]
      by_cases tail : ∀ y ∈ (Exact.pushEach (Exact.push f x).2 xs).1, y.Stamped
      · rw [if_pos tail, if_pos (both.mpr ⟨head, tail⟩)]
        rfl
      · rw [if_neg tail, if_neg fun all => tail (both.mp all).2]
        rfl
    · rw [if_neg head, if_neg fun all => head (both.mp all).1]

theorem fit_eq {xs : List Frame} (h : ∀ x ∈ xs, f.Accepts x) : f.fit xs =
    if ∀ y ∈ Exact.fit f xs, y.Stamped then .ok (Exact.fit f xs) else .error .overflow := by
  have both : (∀ y ∈ Exact.fit f xs, y.Stamped) ↔ (∀ y ∈ (Exact.pushEach f xs).1, y.Stamped) ∧
      ∀ y ∈ (Exact.flush (Exact.pushEach f xs).2).1, y.Stamped := by
    simp only [Exact.fit, List.forall_mem_append, Option.mem_toList, Option.mem_def]
  rw [fit, pushEach_eq h]
  by_cases front : ∀ y ∈ (Exact.pushEach f xs).1, y.Stamped
  · rw [if_pos front]
    change ((Exact.pushEach f xs).2.flush >>= _) = _
    rw [flush_eq, bounded]
    by_cases last : ∀ y ∈ (Exact.flush (Exact.pushEach f xs).2).1, y.Stamped
    · rw [if_pos last, if_pos (both.mpr ⟨front, last⟩)]
      rfl
    · rw [if_neg last, if_neg fun all => last (both.mp all).2]
      rfl
  · rw [if_neg front, if_neg fun all => front (both.mp all).1]
    rfl

theorem push_of_anchor (f : Fitter) (x : Frame) : Exact.push (f.anchor x) x = Exact.push f x := by
  unfold Exact.push
  rw [anchor_anchor]
  rfl

theorem fit_anchor (f : Fitter) (x : Frame) (xs : List Frame) :
    Exact.fit (f.anchor x) (x :: xs) = Exact.fit f (x :: xs) := by
  unfold Exact.fit
  rw [Exact.pushEach, Exact.pushEach, push_of_anchor]

section Fresh

variable {source target : Stream} {timeBase : TimeBase} {speed : Float}

theorem Fresh.steady (h : f.Fresh source target timeBase speed) : f.stages.Steady := by
  obtain ⟨s, started, stretch⟩ := h.exists_stretch
  intro s' mem
  change s' ∈ f.stretch at mem
  rw [stretch] at mem
  split at mem <;> cases mem
  exact Stretch.steady_start started

theorem Idle.still (h : f.Idle) : f.stages.Still := by
  obtain ⟨source, target, timeBase, inward, stretch, outward, origin, emitted, hr, hc⟩ := f
  obtain ⟨hin, hs, hout⟩ := h
  dsimp only at hin hs hout
  unfold stages Stages.Still Stages.push
  dsimp only
  rw [hin.push]
  cases stretch with
  | none => simp only [Stretch.push?, hout.push]
  | some s => simp only [Stretch.push?, (hs s rfl).push, hout.push]

/-- What comes of a whole utterance: pieces of what the stages make of all samples. The pieces know
the time stamp of the first frame if it has one, and none if no frame has one. -/
theorem Fresh.fit (h : f.Fresh source target timeBase speed) (xs : List Frame) :
    ∃ ps, Exact.fit f xs = f.pieces 0 ps ∧
      ps.flatMap (·.2) = f.stages.whole (xs.flatMap Frame.downmix) ∧ (∀ p ∈ ps, p.2 ≠ []) ∧
      (∀ x ∈ xs.head?, ∀ t ∈ x.pts, ∀ p ∈ ps, p.1 = some (x.timeBase.rescale t timeBase)) ∧
      ((∀ x ∈ xs, x.pts = none) → ∀ p ∈ ps, p.1 = none) := by
  -- From the first frame on the origin is that of `f'`.
  obtain ⟨f', fit, target', timeBase', emitted, stages, first, unknown⟩ :
      ∃ f' : Fitter, Exact.fit f' xs = Exact.fit f xs ∧ f'.target = f.target ∧ f'.timeBase = f.timeBase ∧
        f'.emitted = f.emitted ∧ f'.stages = f.stages ∧
        (∀ x ∈ xs.head?, ∀ t ∈ x.pts, x.timeBase.rescale t timeBase ∈ f'.origin) ∧
        ((∀ x ∈ xs, x.pts = none) → f'.origin = none) := by
    cases xs with
    | nil => exact ⟨f, rfl, rfl, rfl, rfl, rfl, nofun, fun _ => h.origin_eq⟩
    | cons x xs =>
      refine ⟨f.anchor x, f.fit_anchor x xs, rfl, rfl, rfl, rfl, ?_, ?_⟩
      · intro y front t stamp
        cases front
        rw [anchor, h.origin_eq, stamp, h.timeBase_eq]
        rfl
      · intro none
        rw [anchor, h.origin_eq, none x List.mem_cons_self]
        rfl
  obtain ⟨g, gives, same⟩ := fit_gives xs (stages ▸ h.steady) (stages ▸ h.idle.still)
  obtain ⟨ps, frames, samples, each⟩ := gives.exists_pieces
  refine ⟨ps, ?_, ?_, fun p mem => (each p mem).1, ?_, ?_⟩
  · rw [← fit, frames, emitted, h.emitted_eq, pieces_congr target' timeBase']
  · rw [samples, stages]
  · intro x front t stamp p mem
    exact (each p mem).2.1 _ (first x front t stamp)
  · intro none p mem
    have nothing := (same none).trans (unknown none)
    refine Option.eq_none_iff_forall_not_mem.mpr fun o known => ?_
    have := (each p mem).2.2 o known
    rw [nothing] at this
    cases this

end Fresh

end Fitter

end Overdub
