import Overdub.Pcm.Scalar

/-!
Planes of scalars, and the two ways to lay out a list of slices in planes. A slice is one scalar
for every channel, all sounding at the same moment.
-/

namespace Overdub

/-- One scalar for each of `c` channels, all of the same moment. -/
abbrev Slice (k : Kind) (c : Nat) := Vector k.Scalar c

namespace Slice

variable {α : Type} {c : Nat}

def interleave (slices : List (Vector α c)) : List α := slices.flatMap Vector.toList

def deinterleave (hc : 0 < c) (plane : List α) : List (Vector α c) :=
  if h : (plane.take c).length = c then
    ⟨(plane.take c).toArray, by simpa using h⟩ :: deinterleave hc (plane.drop c)
  else []
termination_by plane.length
decreasing_by simp only [List.length_take, List.length_drop] at *; omega

def separate (slices : List (Vector α c)) : List (List α) :=
  List.ofFn fun j : Fin c => slices.map (·[j])

def sideBySide {n : Nat} (planes : List (List α)) (hc : planes.length = c)
    (hn : ∀ p ∈ planes, p.length = n) : List (Vector α c) :=
  let planes : Vector (Vector α n) c :=
    ⟨(planes.attach.map fun p => (⟨p.1.toArray, by simp [hn p.1 p.2]⟩ : Vector α n)).toArray,
      by simp [hc]⟩
  List.ofFn fun i : Fin n => Vector.ofFn fun j => planes[j][i]

end Slice

structure Buffer where
  kind : Kind
  planes : List (List kind.Scalar)

namespace Buffer

def silence (k : Kind) (planes length : Nat) : Buffer :=
  ⟨k, .replicate planes (.replicate length k.silence)⟩

def planeLength? (b : Buffer) : Option Nat :=
  let n := (b.planes.headD []).length
  if b.planes.all (·.length == n) then some n else none

def ofChannels (k : Kind) (layout : Layout) (channels : List (List Single)) :
    Except FrameError Buffer :=
  let n := (channels.headD []).length
  if h : ∀ c ∈ channels, c.length = n then
    .ok ⟨k, match layout with
      | .planar => channels.map (·.map k.ofSingle)
      | .interleaved =>
        [(Slice.interleave (Slice.sideBySide channels rfl h)).map k.ofSingle]⟩
  else
    .error (.planeLength n (((channels.map (·.length)).find? (· != n)).getD n))

/-- Channels as floats. Interleaved planes after the first are not looked at, and a last slice
that is not whole is left out. -/
def toChannels (b : Buffer) (layout : Layout) (channels : Nat) : List (List Single) :=
  match layout, b.planes with
  | .planar, planes => planes.map (·.map b.kind.toSingle)
  | .interleaved, [] => .replicate channels []
  | .interleaved, plane :: _ =>
    Slice.separate (Slice.deinterleave (c := max 1 channels) (by omega)
      (plane.map b.kind.toSingle))

end Buffer

end Overdub
