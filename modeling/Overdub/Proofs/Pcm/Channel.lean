import Overdub.Pcm.Frame

/-!
One channel of a frame, read from the places where the layout of its stream puts the scalars.
Either layout gives the scalars that the slices hold.
-/

namespace Overdub

namespace Slice

variable {α : Type} {c : Nat}

theorem getElem?_interleave (slices : List (Vector α c)) (i : Nat) {j : Nat} (hj : j < c) :
    (interleave slices)[i * c + j]? = slices[i]?.map (·[j]) := by
  induction slices generalizing i with
  | nil => simp [interleave]
  | cons s slices ih =>
    change (s.toList ++ interleave slices)[i * c + j]? = _
    cases i with
    | zero =>
      rw [Nat.zero_mul, Nat.zero_add, List.getElem?_append_left (by simpa using hj)]
      simp [hj]
    | succ i =>
      have past : s.toList.length ≤ (i + 1) * c + j := by
        rw [Vector.length_toList, Nat.succ_mul]
        omega
      have rest : (i + 1) * c + j - s.toList.length = i * c + j := by
        rw [Vector.length_toList, Nat.succ_mul]
        omega
      rw [List.getElem?_append_right past, rest, ih]
      rfl

theorem interleave_deinterleave (hc : 0 < c) {plane : List α} {n : Nat} (h : plane.length = n * c) :
    interleave (deinterleave hc plane) = plane := by
  induction n generalizing plane with
  | zero =>
    rw [Nat.zero_mul, List.length_eq_zero_iff] at h
    rw [h, deinterleave, dif_neg (by simpa using Nat.ne_of_lt hc)]
    rfl
  | succ n ih =>
    rw [Nat.succ_mul] at h
    have head : (plane.take c).length = c := by simp; omega
    have tail : (plane.drop c).length = n * c := by simp; omega
    rw [deinterleave, dif_pos head]
    change plane.take c ++ interleave (deinterleave hc (plane.drop c)) = plane
    rw [ih tail, List.take_append_drop]

end Slice

namespace Frame

def channel (f : Frame) (j : Nat) : List f.stream.format.kind.Scalar :=
  match f.stream.format.layout with
  | .planar => f.planes.getD j []
  | .interleaved =>
    (List.range f.length).filterMap fun i => (f.planes.headD [])[i * f.stream.channels + j]?

theorem filterMap_range_length {α : Type} (xs : List α) :
    (List.range xs.length).filterMap (xs[·]?) = xs := by
  induction xs with
  | nil => rfl
  | cons x xs ih =>
    rw [List.length_cons, List.range_succ_eq_map, List.filterMap_cons, List.filterMap_map]
    simpa [Function.comp_def] using ih

theorem channel_eq_map (f : Frame) {j : Nat} (hj : j < f.stream.channels) :
    f.channel j = f.slices.map (·[j]) := by
  unfold channel planes
  cases f.stream.format.layout with
  | planar => simp [Slice.separate, hj]
  | interleaved =>
    simp only [List.headD_cons, Slice.getElem?_interleave _ _ hj]
    simpa [length] using filterMap_range_length (f.slices.map (·[j]))

def channelAs? (f : Frame) (fmt : Format) (c j : Nat) : Option (List fmt.kind.Scalar) :=
  if h : f.stream.format = fmt then if f.stream.channels = c then some (h ▸ f.channel j) else none
  else none

theorem channelAs?_eq_map (f : Frame) (fmt : Format) {c j : Nat} (hj : j < c) :
    f.channelAs? fmt c j = (f.slicesAs? fmt c).map (·.map (·[j])) := by
  unfold channelAs? slicesAs?
  by_cases hf : f.stream.format = fmt
  · by_cases hc : f.stream.channels = c
    · subst hf hc
      simp [channel_eq_map f hj]
    · simp [hf, hc]
  · simp [hf]

theorem length_of_slicesAs? {f : Frame} {fmt : Format} {c : Nat} {s : List (Slice fmt.kind c)}
    (h : f.slicesAs? fmt c = some s) : s.length = f.length := by
  unfold slicesAs? at h
  split at h
  · next e =>
    obtain ⟨rfl, rfl⟩ := e
    cases h
    rfl
  · cases h

def audio (fmt : Format) (c : Nat) (xs : List Frame) : List (Slice fmt.kind c) :=
  xs.flatMap fun x => (x.slicesAs? fmt c).getD []

end Frame

def Frame.mono (k : Kind) (rate : UInt32) (hr : rate ≠ 0) (start : Int) (samples : List k.Scalar) :
    Frame where
  stream := ⟨rate, 1, ⟨k, .interleaved⟩⟩
  timeBase := .perSample rate hr
  pts := some start
  slices := samples.map fun x => #v[x]
  rate_ne := hr
  channels_pos := Nat.one_pos

end Overdub
