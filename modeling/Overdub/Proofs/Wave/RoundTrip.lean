import Overdub.Proofs.Pcm.Layout
import Overdub.Proofs.Playback.Overlay
import Overdub.Proofs.Wave.Content

/-!
Frames through a wave file. What was written frame by frame is read back in frames of another size,
with the same scalars in the same order.
-/

namespace Overdub

open Wave (Coding Content)

namespace Frame

variable {fmt : Format} {c : Nat} {xs ys : List Frame}

end Frame

namespace Wave

/-- How the scalars of a stream are kept: by a coding that holds every one of them. -/
structure Spec.Keeps (spec : Spec) (s : Stream) (c : Coding) : Prop where
  channels_eq : spec.channels = s.channels
  rate_eq : spec.rate = s.rate
  bits_mem : spec.bits ∈ [8, 16, 24, 32]
  kind?_eq : spec.kind? = some s.format.kind
  of?_eq : Coding.of? spec.bits spec.float spec.width = some c
  whole : ∀ padded, c ≠ .s24 padded

namespace Spec.Keeps

variable {spec : Spec} {s : Stream} {c : Coding}

theorem kind_eq (keeps : spec.Keeps s c) : c.kind = s.format.kind :=
  kind_of_kind? keeps.kind?_eq keeps.of?_eq

theorem decodeAll_flatMap (keeps : spec.Keeps s c) (xs : List c.kind.Scalar) :
    c.decodeAll (xs.flatMap c.encode) = xs := by
  refine Coding.decodeAll_flatMap (keeps.whole true) fun x _ => ?_
  cases c with
  | s24 padded => exact absurd rfl (keeps.whole padded)
  | _ => trivial

theorem writable (keeps : spec.Keeps s c) (channels : 0 < s.channels)
    (align : spec.width * s.channels < 2 ^ 16)
    (pace : spec.width * s.channels * s.rate.toNat < 2 ^ 32) : Writer.Writable spec := by
  have width : 0 < spec.width := Coding.width_of? keeps.of?_eq ▸ c.width_pos
  have alone := Nat.le_mul_of_pos_left s.channels width
  rw [← keeps.channels_eq] at channels align pace alone
  rw [← keeps.rate_eq] at pace
  exact Writer.writable_of_kind? keeps.kind?_eq
    ⟨channels, Nat.lt_of_le_of_lt alone align, align, pace⟩

end Spec.Keeps

namespace Writer

variable {s : Stream} {c : Coding}

end Writer

namespace Reader

def all (r : Reader) : Except Error (List Frame × Reader) :=
  match _h : r.next with
  | .error e => .error e
  | .ok (none, r) => .ok ([], r)
  | .ok (some f, r) => (all r).map fun rest => (f :: rest.1, rest.2)
termination_by r.left
decreasing_by exact left_lt _h

/-- Frames cut from the front of what is left: each is full but the last, and starts where the one
before it ends. -/
def Cuts (r : Reader) (fs : List Frame) : Prop :=
  ∀ front f back, fs = front ++ f :: back →
    f.stream = r.stream ∧ f.timeBase = r.timeBase ∧
      f.pts = some (r.position + (front.map Frame.length).sum : Int) ∧
      0 < f.length ∧ f.length ≤ r.frameSize ∧ (back ≠ [] → f.length = r.frameSize)

variable {r : Reader} {c : Coding}

theorem length_front (kind : c.kind = r.stream.format.kind)
    (there : r.count * r.stream.channels * c.width ≤ r.data.length) :
    (r.front c kind).length = r.count := by
  have content := congrArg (·.2.length) (content_front kind there)
  have scalars := content.trans (c.length_decodeAll (length_bytes there))
  have slices := (Slice.length_interleave (r.front c kind).slices).symm.trans scalars
  exact Nat.eq_of_mul_eq_mul_right r.channels_pos slices

theorem Cuts.cons (kind : c.kind = r.stream.format.kind) (size : 0 < r.frameSize)
    (more : r.left ≠ 0) (there : r.count * r.stream.channels * c.width ≤ r.data.length)
    {fs : List Frame} (last : (r.after c).left = 0 → fs = []) (cuts : (r.after c).Cuts fs) :
    r.Cuts (r.front c kind :: fs) := by
  have length := length_front kind there
  have pos := count_ne_zero size more
  intro front f back split
  cases front with
  | nil =>
    obtain ⟨rfl, rfl⟩ := List.cons.inj split
    refine ⟨rfl, rfl, rfl, by omega, ?_, fun next => ?_⟩
    · exact length ▸ Nat.min_le_left ..
    · have next : r.left - r.count ≠ 0 := fun done => next (last done)
      rw [length, count] at *
      omega
  | cons g front =>
    obtain ⟨rfl, rfl⟩ := List.cons.inj split
    obtain ⟨stream, clock, pts, size⟩ := cuts front f back rfl
    refine ⟨stream, clock, pts.trans ?_, size⟩
    rw [List.map_cons, List.sum_cons, length, Int.natCast_add, ← Int.add_assoc]
    rfl

theorem Cuts.stream_eq {fs : List Frame} (cuts : r.Cuts fs) : ∀ f ∈ fs, f.stream = r.stream := by
  intro f mem
  obtain ⟨front, back, split⟩ := List.append_of_mem mem
  exact (cuts front f back split).1

end Reader

end Wave

end Overdub
