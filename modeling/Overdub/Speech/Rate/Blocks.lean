import Overdub.Speech.Rate.Kernel

/-!
Rate conversion block by block. A block is filtered and re-sampled through its spectrum; what
rings on after its end is added to the block that follows.
-/

namespace Overdub

structure Blocks where
  size : BlockSize
  response : Array Complex
  saved : List Float32 := []
  ringing : Array Float := #[]

namespace Blocks

def start (size : BlockSize) : Blocks := { size, response := Kernel.response size }

def spread (b : Blocks) (block : List Float32) : Array Float :=
  let padded := block.map (Complex.ofReal ·.toFloat) ++ .replicate b.size.input ⟨0, 0⟩
  let spectrum := Spectrum.transform padded.toArray
  let kept := if b.size.input < b.size.output then b.size.input + 1 else b.size.output
  let band := Array.ofFn fun k : Fin (2 * b.size.output) =>
    if kept ≤ k then ⟨0, 0⟩
    else
      let x := (spectrum.getD k default).mul (b.response.getD k default)
      if (k : Nat) = 0 then .ofReal x.re else .conj ⟨2 * x.re, 2 * x.im⟩
  (Spectrum.transform band).map (·.re)

def convert (b : Blocks) (block : List Float32) : List Float32 × Blocks :=
  let wave := b.spread block
  ((List.range b.size.output).map fun i =>
      (0 + wave.getD i 0 + b.ringing.getD i 0).toFloat32,
    { b with ringing := wave.extract b.size.output wave.size })

def run (b : Blocks) : List Float32 × Blocks :=
  if b.size.input ≤ b.saved.length then
    let next := b.convert (b.saved.take b.size.input)
    let rest := run { next.2 with saved := b.saved.drop b.size.input }
    (next.1 ++ rest.1, rest.2)
  else ([], b)
termination_by b.saved.length
decreasing_by have := b.size.input_pos; simp only [List.length_drop]; omega

def feed (b : Blocks) (samples : List Float32) : List Float32 × Blocks :=
  run { b with saved := b.saved ++ samples }

end Blocks

end Overdub
