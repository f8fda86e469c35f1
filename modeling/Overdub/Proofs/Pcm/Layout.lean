import Overdub.Proofs.Pcm.Channel
import Overdub.Playback.Gains

/-!
Frames in another layout. The scalars stand elsewhere and are the same, channel by channel, and
packed channels are mixed scalar by scalar.
-/

namespace Overdub

namespace Slice

variable {α : Type} {k : Kind} {c : Nat}

theorem ext_channels (hc : 0 < c) {a b : List (Vector α c)}
    (same : ∀ j, (hj : j < c) → a.map (·[j]) = b.map (·[j])) : a = b := by
  induction a generalizing b with
  | nil => exact (List.map_eq_nil_iff.mp (same 0 hc).symm).symm
  | cons s a ih =>
    cases b with
    | nil => cases same 0 hc
    | cons t b =>
      have first : s = t := Vector.ext fun j hj => (List.cons.inj (same j hj)).1
      rw [first, ih fun j hj => (List.cons.inj (same j hj)).2]

theorem interleave_drop (a : List (Vector α c)) (n : Nat) :
    interleave (a.drop n) = (interleave a).drop (n * c) := by
  induction n generalizing a with
  | zero => rw [Nat.zero_mul, List.drop_zero, List.drop_zero]
  | succ n ih =>
    cases a with
    | nil => exact List.drop_nil.symm
    | cons s a =>
      have first : (n + 1) * c = s.toList.length + n * c := by
        rw [Vector.length_toList, Nat.succ_mul, Nat.add_comm]
      change interleave (a.drop n) = (s.toList ++ interleave a).drop _
      rw [ih, first, List.drop_length_add_append]

theorem toList_mix (g : Gains) (p s : Slice k c) :
    (mix g p s).toList = p.toList.zipWith (k.mix g) s.toList :=
  Vector.toList_zipWith

theorem interleave_mix (g : Gains) (p s : List (Slice k c)) (n : Nat) :
    interleave (p.zipWith (mix g) (s.drop n)) =
      (interleave p).zipWith (k.mix g) ((interleave s).drop (n * c)) := by
  rw [← interleave_drop]
  generalize s.drop n = s
  induction p generalizing s with
  | nil => rfl
  | cons p ps ih =>
    cases s with
    | nil => exact List.zipWith_nil_right.symm
    | cons s ss =>
      change (mix g p s).toList ++ interleave (ps.zipWith (mix g) ss) =
        (p.toList ++ interleave ps).zipWith (k.mix g) (s.toList ++ interleave ss)
      rw [List.zipWith_append (by rw [Vector.length_toList, Vector.length_toList]), ih, toList_mix]

theorem deinterleave_interleave (hc : 0 < c) (a : List (Vector α c)) :
    deinterleave hc (interleave a) = a := by
  induction a with
  | nil =>
    have short : ¬ (([] : List α).take c).length = c := by
      rw [List.take_nil]
      exact Nat.ne_of_lt hc
    rw [interleave, List.flatMap_nil, deinterleave, dif_neg short]
  | cons s a ih =>
    have front : (interleave (s :: a)).take c = s.toList :=
      List.take_left' (Vector.length_toList ..)
    have back : (interleave (s :: a)).drop c = interleave a :=
      List.drop_left' (Vector.length_toList ..)
    have whole : ((interleave (s :: a)).take c).length = c := by rw [front, Vector.length_toList]
    rw [deinterleave, dif_pos whole, back, ih]
    congr 1
    apply Vector.toList_inj.mp
    exact front

theorem length_interleave (a : List (Vector α c)) : (interleave a).length = a.length * c := by
  simp [interleave, List.length_flatMap, List.map_const']

theorem sideBySide_separate (a : List (Vector α c)) (hc : (separate a).length = c) {n : Nat}
    (hn : ∀ p ∈ separate a, p.length = n) (len : a.length = n) :
    sideBySide (separate a) hc hn = a := by
  apply List.ext_getElem
  · simp [sideBySide, len]
  · intro i hi _
    apply Vector.ext
    intro j hj
    simp [sideBySide, separate]

end Slice

namespace Stream

def withLayout (s : Stream) (l : Layout) : Stream := { s with format.layout := l }

end Stream

namespace Frame

def restream (f : Frame) (rate : UInt32) (rate_ne : rate ≠ 0) (l : Layout) : Frame where
  stream := { f.stream.withLayout l with rate }
  timeBase := f.timeBase
  pts := f.pts
  slices := f.slices
  rate_ne := rate_ne
  channels_pos := f.channels_pos

def withLayout (f : Frame) (l : Layout) : Frame := f.restream f.stream.rate f.rate_ne l

def byChannel (f : Frame) : Buffer :=
  ⟨f.stream.format.kind, (List.range f.stream.channels).map f.channel⟩

/-- The same channels at the same time. Layout and rate of the streams may differ. -/
structure SoundsAs (x y : Frame) : Prop where
  byChannel_eq : x.byChannel = y.byChannel
  pts_eq : x.pts = y.pts
  timeBase_eq : x.timeBase = y.timeBase

theorem SoundsAs.symm {x y : Frame} (same : x.SoundsAs y) : y.SoundsAs x :=
  ⟨same.byChannel_eq.symm, same.pts_eq.symm, same.timeBase_eq.symm⟩

theorem soundsAs_restream (f : Frame) (rate : UInt32) (rate_ne : rate ≠ 0) (l : Layout) :
    f.SoundsAs (f.restream rate rate_ne l) := by
  refine ⟨?_, rfl, rfl⟩
  have same : (List.range f.stream.channels).map f.channel =
      (List.range f.stream.channels).map (f.restream rate rate_ne l).channel := by
    apply List.map_congr_left
    intro j mem
    have hj := List.mem_range.mp mem
    exact (f.channel_eq_map hj).trans ((f.restream rate rate_ne l).channel_eq_map hj).symm
  exact congrArg (Buffer.mk _) same

theorem SoundsAs.eq_restream {x y : Frame} (same : x.SoundsAs y) :
    y = x.restream y.stream.rate y.rate_ne y.stream.format.layout := by
  obtain ⟨channels, pts, clock⟩ := same
  obtain ⟨⟨r, c, k, l⟩, tb, t, slices, hr, hc⟩ := x
  obtain ⟨⟨r', c', k', l'⟩, tb', t', slices', hr', hc'⟩ := y
  cases pts
  cases clock
  obtain ⟨kinds, planes⟩ := Buffer.mk.inj channels
  cases kinds
  replace planes := eq_of_heq planes
  have count : c = c' := by simpa using congrArg List.length planes
  cases count
  have slices_eq : slices = slices' := by
    apply Slice.ext_channels hc
    intro j hj
    have plane := List.map_inj_left.mp planes j (List.mem_range.mpr hj)
    rwa [channel_eq_map _ hj, channel_eq_map _ hj] at plane
  cases slices_eq
  rfl

theorem ofBuffer_buffer (f : Frame) : ofBuffer f.stream f.timeBase f.pts f.buffer = .ok f := by
  obtain ⟨⟨r, c, k, l⟩, tb, t, slices, hr, hc⟩ := f
  have some : c ≠ 0 := Nat.ne_of_gt hc
  unfold ofBuffer buffer planes
  rw [dif_neg hr, dif_neg some, dif_pos rfl]
  cases l with
  | planar =>
    have count : (Slice.separate slices).length = c := List.length_ofFn
    have long : ∀ p ∈ Slice.separate slices, p.length = slices.length := by
      intro p mem
      obtain ⟨j, rfl⟩ := List.mem_ofFn.mp mem
      exact List.length_map ..
    have front : slices.length = ((Slice.separate slices).headD []).length := by
      rw [List.headD_eq_head?_getD]
      cases planes : Slice.separate slices with
      | nil =>
        rw [planes] at count
        exact absurd count.symm some
      | cons p ps =>
        rw [planes] at long
        exact (long p List.mem_cons_self).symm
    dsimp only [Format.planeCount]
    rw [dif_pos count, dif_pos (fun p mem => (long p mem).trans front)]
    congr 2
    exact Slice.sideBySide_separate slices _ _ front
  | interleaved =>
    have whole : (Slice.interleave slices).length % c = 0 := by
      rw [Slice.length_interleave]
      exact Nat.mul_mod_left ..
    dsimp only [Format.planeCount]
    rw [dif_pos List.length_singleton, dif_pos (by simp)]
    refine (if_pos whole).trans ?_
    congr 2
    exact Slice.deinterleave_interleave ..

end Frame

end Overdub
