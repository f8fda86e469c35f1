import Overdub.Speech.Error
import Overdub.Speech.Speed
import Overdub.Speech.Window

/-!
Change of tempo at constant pitch. Windows are taken from the input near their places and laid
over one another one hop apart; each starts where it best goes on from the one before.
-/

namespace Overdub

structure Stretch where
  pace : Pace
  input : List Float32 := []
  base : Nat := 0
  fed : Nat := 0
  taken : Nat := 0
  last : Option Nat := none
  overlap : List Float32 := .replicate Pace.hop 0
  emitted : Nat := 0

namespace Stretch

open Pace (window hop seek)

def start? (speed : Float) : Except FitError Stretch :=
  if Speed.usable speed then .ok { pace := ⟨.ofFloat speed⟩ } else .error (.speed speed)

def similarity : Float32 → List Float32 → List Float32 → Float32
  | sum, x :: xs, y :: ys => similarity (sum + x * y) xs ys
  | sum, _, _ => sum

def onward (s : Stretch) (p : Nat) : List Float32 := s.input.drop (p - s.base)

def reach (s : Stretch) : Nat := s.base + s.input.length

/-- The input that the next window asks for: all places where it may start, and what would follow
on the last one. -/
def need (s : Stretch) : Nat :=
  max (s.pace.place s.taken + seek + window) (s.last.elim 0 (· + hop + window))

def expected (s : Stretch) : Nat := s.pace.output s.fed

/-- The start near its place that is most like the natural continuation of the window at `last`.
Of equals the place itself comes first, then the earliest. -/
def bestStart (s : Stretch) (last : Nat) : Nat :=
  let follow := (s.onward (last + hop)).take window
  let score := fun (p : Nat) => similarity 0 (s.onward p) follow
  let place := s.pace.place s.taken
  let first := max (place - seek) s.base
  let better := fun (best : Nat × Float32) (p : Nat) =>
    let x := score p
    if best.2 < x then (p, x) else best
  ((List.range' first (place + seek + 1 - first)).foldl better (place, score place)).1

/-- Takes the next window. The first one has nothing to overlap with and starts at full weight. -/
def step (s : Stretch) : List Float32 × Stretch :=
  let start := s.last.elim 0 s.bestStart
  let segment := (s.onward start).take window
  let head := segment.take hop
  let head := if s.taken = 0 then head else head.zipWith (· * ·) Window.rising
  let keep := min (s.pace.place (s.taken + 1) - seek) (start + hop)
  (s.overlap.zipWith (· + ·) head,
    { s with
      input := s.input.drop (keep - s.base)
      base := max s.base keep
      taken := s.taken + 1
      last := some start
      overlap := (segment.drop hop).zipWith (· * ·) Window.falling
      emitted := s.emitted + hop })

/-- Takes windows while the input suffices and the output does not get ahead of the input. -/
def run (s : Stretch) : List Float32 × Stretch :=
  if s.need ≤ s.reach ∧ s.emitted + hop ≤ s.expected then
    let next := s.step
    let rest := run next.2
    (next.1 ++ rest.1, rest.2)
  else ([], s)
termination_by s.expected - s.emitted
decreasing_by simp_all only [step, expected, hop]; omega

def push (s : Stretch) (samples : List Float32) : List Float32 × Stretch :=
  run { s with input := s.input ++ samples, fed := s.fed + samples.length }

/-- Takes windows until the output is long enough, and adds silence where the input ends. -/
def exhaust (s : Stretch) : List Float32 × Stretch :=
  if s.emitted < s.expected then
    if s.need ≤ s.reach then
      let next := s.step
      let rest := exhaust next.2
      (next.1 ++ rest.1, rest.2)
    else exhaust { s with input := s.input ++ .replicate (window + seek) 0 }
  else ([], s)
termination_by (s.expected - s.emitted, s.need - s.reach)
decreasing_by
  · refine .left _ _ ?_
    simp_all only [step, expected, hop]; omega
  · refine .right _ ?_
    simp_all only [need, reach, window, seek, List.length_append, List.length_replicate]; omega

def flush (s : Stretch) : List Float32 × Stretch :=
  let (out, t) := s.exhaust
  let excess := t.emitted - t.expected
  (out.take (out.length - excess), { t with emitted := t.emitted - excess })

end Stretch

end Overdub
