import Overdub.Proofs.Pcm.Shape

/-!
Edits of a frame once it is made: a new start, or a scalar at a place of a plane. They leave the
number and the lengths of the planes alone.
-/

namespace Overdub

namespace Slice

variable {α : Type} {c : Nat}

theorem separate_modify (a : List (Vector α c)) (i j : Nat) (x : α) :
    separate (a.modify i (·.setIfInBounds j x)) = (separate a).modify j (·.set i x) := by
  apply List.ext_getElem
  · simp [separate]
  · intro m _ _
    apply List.ext_getElem
    · simp only [separate, List.getElem_ofFn, List.getElem_modify]
      split <;> simp
    · intro n _ _
      simp only [separate, List.getElem_ofFn, List.getElem_modify, List.getElem_map]
      split <;> split <;> simp_all

theorem interleave_modify (hc : 0 < c) (a : List (Vector α c)) (i : Nat) (x : α) :
    interleave (a.modify (i / c) (·.setIfInBounds (i % c) x)) = (interleave a).set i x := by
  induction a generalizing i with
  | nil => simp [interleave]
  | cons s a ih =>
    change _ = (s.toList ++ interleave a).set i x
    by_cases lt : i < c
    · rw [Nat.div_eq_of_lt lt, Nat.mod_eq_of_lt lt, List.set_append_left _ _ (by simpa using lt)]
      change (s.setIfInBounds i x).toList ++ interleave a = _
      simp
    · have next : i / c = (i - c) / c + 1 := by rw [Nat.div_eq_sub_div hc (by omega)]
      have rest : i % c = (i - c) % c := Nat.mod_eq_sub_mod (by omega)
      rw [next, rest, List.modify_succ_cons, List.set_append_right _ _ (by simpa using lt),
        Vector.length_toList, ← ih]
      rfl

end Slice

def Buffer.write (b : Buffer) (k : Kind) (plane place : Nat) (x : k.Scalar) : Buffer :=
  if h : k = b.kind then { b with planes := b.planes.modify plane (·.set place (h ▸ x)) } else b

theorem Buffer.write_same (k : Kind) (planes : List (List k.Scalar)) (plane place : Nat)
    (x : k.Scalar) : (Buffer.mk k planes).write k plane place x =
      ⟨k, planes.modify plane (·.set place x)⟩ :=
  dif_pos rfl

theorem Buffer.write_other {b : Buffer} {k : Kind} (other : k ≠ b.kind) (plane place : Nat)
    (x : k.Scalar) : b.write k plane place x = b :=
  dif_neg other

def Edit.apply : Edit → Option Int × Buffer → Option Int × Buffer
  | .start pts, (_, b) => (pts, b)
  | .write k plane place x, (pts, b) => (pts, b.write k plane place x)

namespace Frame

variable {f : Frame}

/-- What an edit leaves alone, and what it does to the rest. -/
structure Edited (f g : Frame) (now : Option Int × Buffer) : Prop where
  stream_eq : g.stream = f.stream
  timeBase_eq : g.timeBase = f.timeBase
  length_eq : g.length = f.length
  now_eq : (g.pts, g.buffer) = now

theorem edited_write (f : Frame) (k : Kind) (plane place : Nat) (x : k.Scalar) :
    f.Edited (f.write k plane place x) (f.pts, f.buffer.write k plane place x) := by
  obtain ⟨⟨r, c, k', l⟩, tb, pts, slices, hr, hc⟩ := f
  unfold write
  split
  · next same =>
    change k = k' at same
    subst same
    cases l with
    | planar =>
      refine ⟨rfl, rfl, List.length_modify .., ?_⟩
      refine congrArg (Prod.mk pts) (.trans ?_ (Buffer.write_same k _ plane place x).symm)
      exact congrArg (Buffer.mk k) (Slice.separate_modify slices place plane x)
    | interleaved =>
      cases plane with
      | zero =>
        refine ⟨rfl, rfl, List.length_modify .., ?_⟩
        refine congrArg (Prod.mk pts) (.trans ?_ (Buffer.write_same k _ 0 place x).symm)
        exact congrArg (fun p => Buffer.mk k [p]) (Slice.interleave_modify hc slices place x)
      | succ plane =>
        have beyond : [Slice.interleave slices].modify (plane + 1) (·.set place x) =
            [Slice.interleave slices] := by simp
        refine ⟨rfl, rfl, rfl, ?_⟩
        refine congrArg (Prod.mk pts) (.trans ?_ (Buffer.write_same k _ (plane + 1) place x).symm)
        exact congrArg (Buffer.mk k) beyond.symm
  · next other =>
    refine ⟨rfl, rfl, rfl, ?_⟩
    exact congrArg (Prod.mk pts) (Buffer.write_other other plane place x).symm

theorem edited_edit (f : Frame) (e : Edit) : f.Edited (f.edit e) (e.apply (f.pts, f.buffer)) := by
  cases e with
  | start pts => exact ⟨rfl, rfl, rfl, rfl⟩
  | write k plane place x => exact edited_write f k plane place x

theorem edited_editAll (f : Frame) (edits : List Edit) :
    f.Edited (f.editAll edits) (edits.foldl (fun now e => e.apply now) (f.pts, f.buffer)) := by
  induction edits generalizing f with
  | nil => exact ⟨rfl, rfl, rfl, rfl⟩
  | cons e edits ih =>
    obtain ⟨stream, clock, length, now⟩ := edited_edit f e
    obtain ⟨stream', clock', length', now'⟩ := ih (f.edit e)
    rw [now] at now'
    exact ⟨stream'.trans stream, clock'.trans clock, length'.trans length, now'⟩

end Frame

end Overdub
