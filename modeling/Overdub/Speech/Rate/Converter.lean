import Overdub.Speech.Error
import Overdub.Speech.Rate.Blocks

/-!
Rate conversion of a stream of samples. Input is gathered into chunks, the delay of the filter is
cut off the head, and a flush brings the output to its exact length.
-/

namespace Overdub

structure RateLine where
  blocks : Blocks
  pending : List Float32 := []
  /-- Output still to be dropped, because it lies before the first sample. -/
  skip : Nat

namespace RateLine

def chunk : Nat := 1024

def drainLimit : Nat := 64

def start (size : BlockSize) : RateLine := { blocks := .start size, skip := size.output / 2 }

def feed (l : RateLine) (samples : List Float32) : List Float32 × RateLine :=
  let (out, blocks) := l.blocks.feed samples
  (out.drop l.skip, { l with blocks, skip := l.skip - out.length })

def run (l : RateLine) : List Float32 × RateLine :=
  if chunk ≤ l.pending.length then
    let next := l.feed (l.pending.take chunk)
    let rest := run { next.2 with pending := l.pending.drop chunk }
    (next.1 ++ rest.1, rest.2)
  else ([], l)
termination_by l.pending.length
decreasing_by simp only [chunk, List.length_drop] at *; omega

def push (l : RateLine) (samples : List Float32) : List Float32 × RateLine :=
  run { l with pending := l.pending ++ samples }

def drain : Nat → Nat → RateLine → List Float32 × RateLine
  | 0, _, l => ([], l)
  | _, 0, l => ([], l)
  | n + 1, wanted, l =>
    let next := l.feed (.replicate chunk 0)
    let rest := drain n (wanted - next.1.length) next.2
    (next.1 ++ rest.1, rest.2)

def flush (l : RateLine) (wanted : Nat) : List Float32 × RateLine :=
  let next :=
    if l.pending.isEmpty then ([], l)
    else
      feed { l with pending := [] }
        (l.pending ++ List.replicate (chunk - l.pending.length) 0)
  let rest := drain drainLimit (wanted - next.1.length) next.2
  (next.1 ++ rest.1, rest.2)

end RateLine

/-- Converts from `source` to `target` samples a second; between equal rates nothing is changed. -/
structure RateConverter where
  source : UInt32
  target : UInt32
  line : Option RateLine
  fed : Nat := 0
  produced : Nat := 0

namespace RateConverter

def start (source target : UInt32) (h : source ≠ 0) : RateConverter :=
  let line :=
    if source = target then none
    else some (.start (.ofRates source.toNat target.toNat
      (Nat.pos_of_ne_zero fun e => h (UInt32.toNat_inj.mp e))))
  { source, target, line }

def start? (source target : UInt32) : Except FitError RateConverter :=
  if h : source = 0 then .error .zeroRate
  else if target = 0 then .error .zeroRate
  else .ok (start source target h)

/-- Length of the whole output for the input so far: the nearest whole number. -/
def expected (c : RateConverter) : Nat :=
  (c.fed * c.target.toNat + c.source.toNat / 2) / c.source.toNat

def push (c : RateConverter) (samples : List Float32) : List Float32 × RateConverter :=
  let c := { c with fed := c.fed + samples.length }
  match c.line with
  | none => (samples, { c with produced := c.produced + samples.length })
  | some l =>
    let (out, l) := l.push samples
    (out, { c with line := some l, produced := c.produced + out.length })

def flush (c : RateConverter) : List Float32 × RateConverter :=
  match c.line with
  | none => ([], c)
  | some l =>
    let wanted := c.expected - c.produced
    let (out, l) := l.flush wanted
    (out.take wanted,
      { c with line := some l, produced := min (c.produced + out.length) c.expected })

end RateConverter

end Overdub
