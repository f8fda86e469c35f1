import Overdub.Proofs.Checked
import Overdub.Proofs.Pcm.Shape

/-!
Work on planes with every place in a plane and every product of a sample number and a channel count
checked. No check fails where the planes are those of slices, and the work is that on the slices.
-/

namespace Overdub

open Checked (Fault)

namespace Slice

variable {α β : Type} {k : Kind} {c : Nat}

def lay (f : α → β → α) (p : List α) (i : Nat) (s : List β) (j n : Nat) : List α :=
  p.take i ++ ((p.drop i).take n).zipWith f ((s.drop j).take n) ++ p.drop (i + n)

theorem lay_min (f : α → β → α) (p : List α) (i : Nat) (s : List β) (j : Nat) :
    lay f p i s j (min (p.length - i) (s.length - j)) =
      p.take i ++ (p.drop i).zipWith f (s.drop j) ++
        p.drop (i + min (p.length - i) (s.length - j)) := by
  have all : ((p.drop i).zipWith f (s.drop j)).length ≤ min (p.length - i) (s.length - j) := by simp
  rw [lay, ← List.take_zipWith, List.take_of_length_le all]

theorem length_front (f : α → β → α) {p : List α} {s : List β} {i j : Nat} (h : i ≤ p.length) :
    (p.take i ++ (p.drop i).zipWith f (s.drop j)).length =
      i + min (p.length - i) (s.length - j) := by
  simp only [List.length_append, List.length_take, List.length_zipWith, List.length_drop]
  omega

theorem interleave_append (a b : List (Vector α c)) :
    interleave (a ++ b) = interleave a ++ interleave b :=
  List.flatMap_append

theorem interleave_take (a : List (Vector α c)) (n : Nat) :
    interleave (a.take n) = (interleave a).take (n * c) := by
  induction n generalizing a with
  | zero => rw [Nat.zero_mul, List.take_zero, List.take_zero]; rfl
  | succ n ih =>
    cases a with
    | nil => exact List.take_nil.symm
    | cons s a =>
      have first : (n + 1) * c = s.toList.length + n * c := by
        rw [Vector.length_toList, Nat.succ_mul, Nat.add_comm]
      change s.toList ++ interleave (a.take n) = (s.toList ++ interleave a).take _
      rw [ih, first, List.take_length_add_append]

theorem interleave_lay (g : Gains) (p s : List (Slice k c)) (i j n : Nat) :
    interleave (lay (mix g) p i s j n) =
      lay (k.mix g) (interleave p) (i * c) (interleave s) (j * c) (n * c) := by
  have mixed := interleave_mix g ((p.drop i).take n) ((s.drop j).take n) 0
  rw [List.drop_zero, Nat.zero_mul, List.drop_zero] at mixed
  simp only [lay, interleave_append, mixed, interleave_take, interleave_drop, Nat.add_mul]

theorem separate_lay (g : Gains) (p s : List (Slice k c)) (i j n : Nat) :
    separate (lay (mix g) p i s j n) =
      (separate p).zipWith (fun d s => lay (k.mix g) d i s j n) (separate s) := by
  apply List.ext_getElem
  · simp [separate]
  · intro m hm _
    have hm : m < c := by simpa [separate] using hm
    simp [separate, lay, mix, List.map_zipWith, ← List.map_drop, ← List.map_take, List.zipWith_map]

theorem deinterleave_map (hc : 0 < c) (f : α → β) (plane : List α) :
    deinterleave hc (plane.map f) = (deinterleave hc plane).map (·.map f) := by
  fun_induction deinterleave hc plane with
  | case1 plane whole ih =>
    have whole' : ((plane.map f).take c).length = c := by simpa using whole
    rw [deinterleave, dif_pos whole', ← List.map_drop, ih, List.map_cons]
    congr 1
    apply Vector.toList_inj.mp
    simp
  | case2 plane short =>
    rw [deinterleave, dif_neg (by simpa using short)]
    rfl

end Slice

namespace Buffer

def planesAs? (b : Buffer) (k : Kind) : Option (List (List k.Scalar)) :=
  if h : b.kind = k then some (h ▸ b.planes) else none

namespace Guarded

variable {α β : Type} {k : Kind} {c n : Nat}

def lay (g : Gains) (dst : List k.Scalar) (a b : Nat) (src : List k.Scalar) (a' b' : Nat) :
    Except Fault (List k.Scalar) := do
  let below ← Checked.part dst a b
  let above ← Checked.part src a' b'
  return dst.take a ++ (below.zipWith (k.mix g) above ++ below.drop above.length) ++ dst.drop b

def mixPacked (g : Gains) (channels : Nat) (dst : List (List k.Scalar)) (i : Nat)
    (src : List (List k.Scalar)) (j n : Nat) : Except Fault (List (List k.Scalar)) :=
  match dst, src with
  | d :: ds, s :: _ => do
    let a ← Checked.mul i channels
    let b ← Checked.mul (← Checked.add i n) channels
    let a' ← Checked.mul j channels
    let b' ← Checked.mul (← Checked.add j n) channels
    return (← lay g d a b s a' b') :: ds
  | _, _ => .ok dst

def mixPlanar (g : Gains) (i j n : Nat) :
    List (List k.Scalar) → List (List k.Scalar) → Except Fault (List (List k.Scalar))
  | d :: ds, s :: ss => do
    let b ← Checked.add i n
    let b' ← Checked.add j n
    let laid ← lay g d i b s j b'
    return laid :: (← mixPlanar g i j n ds ss)
  | ds, _ => .ok ds

def mix (g : Gains) (fmt : Format) (channels : Nat) (dst : Buffer) (i : Nat) (src : Buffer)
    (j n : Nat) : Except Fault Buffer :=
  match dst.planesAs? fmt.kind, src.planesAs? fmt.kind with
  | some d, some s => do
    let planes ← match fmt.layout with
      | .interleaved => mixPacked g channels d i s j n
      | .planar => mixPlanar g i j n d s
    return ⟨fmt.kind, planes⟩
  | _, _ => .ok dst

def rows (n : Nat) (planes : List (List α)) : Except Fault (List α) := do
  let slices ← (List.range n).mapM fun i => planes.mapM (Checked.item · i)
  return slices.flatten

def push (out : List (List α)) (j : Nat) (x : α) : Except Fault (List (List α)) := do
  let channel ← Checked.item out j
  return out.set j (channel ++ [x])

def deal (f : α → β) (out : List (List β)) (slice : List α) : Except Fault (List (List β)) :=
  slice.zipIdx.foldlM (fun out p => push out p.2 (f p.1)) out

theorem lanes_pos (channels : Nat) : 0 < max 1 channels := by omega

def toChannels (b : Buffer) (layout : Layout) (channels : Nat) :
    Except Fault (List (List Single)) :=
  match layout, b.planes with
  | .planar, planes => .ok (planes.map (·.map b.kind.toSingle))
  | .interleaved, [] => .ok (.replicate channels [])
  | .interleaved, plane :: _ =>
    (Slice.deinterleave (lanes_pos channels) plane).foldlM
      (fun out s => deal b.kind.toSingle out s.toList) (.replicate (max 1 channels) [])

def ofChannels (k : Kind) (layout : Layout) (channels : List (List Single)) :
    Except Fault (Except FrameError Buffer) :=
  let n := (channels.headD []).length
  if ∀ p ∈ channels, p.length = n then
    match layout with
    | .planar => .ok (.ok ⟨k, channels.map (·.map k.ofSingle)⟩)
    | .interleaved => do
      let _ ← Checked.mul n channels.length
      let scalars ← rows n channels
      return .ok ⟨k, [scalars.map k.ofSingle]⟩
  else .ok (.error (.planeLength n (((channels.map (·.length)).find? (· != n)).getD n)))

def scalars (b : Buffer) (layout : Layout) (channels n : Nat) (k : Kind) :
    Except Fault (List k.Scalar) :=
  match b.planesAs? k, layout with
  | some planes, .interleaved => Checked.item planes 0
  | some planes, .planar => rows n planes
  | none, _ => do
    let planes ← toChannels b layout channels
    let scalars ← rows n (planes.take channels)
    return scalars.map k.ofSingle

theorem lay_eq {g : Gains} {dst src : List k.Scalar} {i j : Nat} (h : i + n ≤ dst.length)
    (h' : j + n ≤ src.length) :
    lay g dst i (i + n) src j (j + n) = .ok (Slice.lay (k.mix g) dst i src j n) := by
  have even : ((dst.drop i).take n).length ≤ ((src.drop j).take n).length := by
    simp only [List.length_take, List.length_drop]
    omega
  rw [lay, Checked.part_eq h, Checked.ok_bind, Checked.part_eq h', Checked.ok_bind,
    List.drop_of_length_le even, List.append_nil]
  rfl

section Mix

variable {g : Gains} {p s : List (Slice k c)} {i j : Nat}

theorem places_eq (hc : 0 < c) (h : i + n ≤ p.length) (fits : p.length * c < 2 ^ 64) :
    Checked.mul i c = .ok (i * c) ∧ Checked.add i n = .ok (i + n) ∧
      Checked.mul (i + n) c = .ok (i * c + n * c) := by
  have last : (i + n) * c ≤ p.length * c := Nat.mul_le_mul_right c h
  have long : p.length ≤ p.length * c := Nat.le_mul_of_pos_right _ hc
  rw [Nat.add_mul] at last
  refine ⟨Checked.mul_eq (by omega), Checked.add_eq (by omega), ?_⟩
  rw [Checked.mul_eq (by rw [Nat.add_mul]; omega), Nat.add_mul]

theorem mixPacked_eq (hc : 0 < c) (h : i + n ≤ p.length) (h' : j + n ≤ s.length)
    (fits : p.length * c < 2 ^ 64) (fits' : s.length * c < 2 ^ 64) :
    mixPacked g c [Slice.interleave p] i [Slice.interleave s] j n =
      .ok [Slice.interleave (Slice.lay (Slice.mix g) p i s j n)] := by
  obtain ⟨a, e, b⟩ := places_eq hc h fits
  obtain ⟨a', e', b'⟩ := places_eq hc h' fits'
  have inside : i * c + n * c ≤ (Slice.interleave p).length := by
    rw [Slice.length_interleave, ← Nat.add_mul]
    exact Nat.mul_le_mul_right c h
  have inside' : j * c + n * c ≤ (Slice.interleave s).length := by
    rw [Slice.length_interleave, ← Nat.add_mul]
    exact Nat.mul_le_mul_right c h'
  rw [mixPacked, a, Checked.ok_bind, e, Checked.ok_bind, b, Checked.ok_bind, a', Checked.ok_bind,
    e', Checked.ok_bind, b', Checked.ok_bind, lay_eq inside inside', Slice.interleave_lay]
  rfl

theorem mixPlanes_eq {ds ss : List (List k.Scalar)} (count : ds.length = ss.length)
    (h : ∀ d ∈ ds, i + n ≤ d.length) (h' : ∀ s ∈ ss, j + n ≤ s.length) (fits : i + n < 2 ^ 64)
    (fits' : j + n < 2 ^ 64) :
    mixPlanar g i j n ds ss =
      .ok (ds.zipWith (fun d s => Slice.lay (k.mix g) d i s j n) ss) := by
  induction ds generalizing ss with
  | nil => rfl
  | cons d ds ih =>
    cases ss with
    | nil => cases count
    | cons s ss =>
      have rest := ih (Nat.succ.inj count) (fun d mem => h d (List.mem_cons_of_mem _ mem))
        fun s mem => h' s (List.mem_cons_of_mem _ mem)
      rw [mixPlanar, Checked.add_eq fits, Checked.ok_bind, Checked.add_eq fits', Checked.ok_bind,
        lay_eq (h d List.mem_cons_self) (h' s List.mem_cons_self), Checked.ok_bind, rest]
      rfl

theorem mixPlanar_eq (h : i + n ≤ p.length) (h' : j + n ≤ s.length) (fits : p.length < 2 ^ 64)
    (fits' : s.length < 2 ^ 64) :
    mixPlanar g i j n (Slice.separate p) (Slice.separate s) =
      .ok (Slice.separate (Slice.lay (Slice.mix g) p i s j n)) := by
  have long : ∀ d ∈ Slice.separate p, i + n ≤ d.length := by
    intro d mem
    obtain ⟨_, rfl⟩ := List.mem_ofFn.mp mem
    rwa [List.length_map]
  have long' : ∀ d ∈ Slice.separate s, j + n ≤ d.length := by
    intro d mem
    obtain ⟨_, rfl⟩ := List.mem_ofFn.mp mem
    rwa [List.length_map]
  rw [mixPlanes_eq (by simp [Slice.separate]) long long' (by omega) (by omega), Slice.separate_lay]

theorem mix_same (d s : List (List k.Scalar)) (l : Layout) (channels : Nat) :
    mix g ⟨k, l⟩ channels ⟨k, d⟩ i ⟨k, s⟩ j n = (do
      let planes ← match l with
        | .interleaved => mixPacked g channels d i s j n
        | .planar => mixPlanar g i j n d s
      return ⟨k, planes⟩) := by
  have all (planes : List (List k.Scalar)) : (Buffer.mk k planes).planesAs? k = some planes :=
    dif_pos rfl
  rw [mix, all, all]

end Mix

theorem getElem?_separate {a : List (Vector α c)} {j : Nat} {channel : List α}
    (h : (Slice.separate a)[j]? = some channel) : ∃ hj : j < c, channel = a.map (·[j]) := by
  obtain ⟨lt, rfl⟩ := List.getElem?_eq_some_iff.mp h
  have hj : j < c := by simpa [Slice.separate] using lt
  exact ⟨hj, by simp [Slice.separate]⟩

theorem rows_separate (a : List (Vector α c)) :
    rows a.length (Slice.separate a) = .ok (Slice.interleave a) := by
  have row : ∀ i s, a[i]? = some s →
      (Slice.separate a).mapM (Checked.item · i) = .ok s.toList := by
    intro i s here
    apply Checked.mapM_eq_ok
    · simp [Slice.separate]
    · intro j channel x at_j at_x
      obtain ⟨hj, rfl⟩ := getElem?_separate at_j
      apply Checked.item_eq
      rw [List.getElem?_map, here]
      simpa [hj] using at_x
  have all : (List.range a.length).mapM (fun i => (Slice.separate a).mapM (Checked.item · i)) =
      .ok (a.map Vector.toList) := by
    apply Checked.mapM_eq_ok
    · simp
    · intro i m xs at_i at_xs
      obtain ⟨lt, rfl⟩ := List.getElem?_eq_some_iff.mp at_i
      rw [List.getElem?_map, Option.map_eq_some_iff] at at_xs
      obtain ⟨s, here, rfl⟩ := at_xs
      rw [List.getElem_range]
      exact row i s here
  rw [rows, all, Checked.ok_bind]
  rfl

theorem foldlM_push (f : α → β) (before after : List (List β)) (xs : List α)
    (count : after.length = xs.length) :
    (xs.zipIdx before.length).foldlM (fun out p => push out p.2 (f p.1)) (before ++ after) =
      .ok (before ++ after.zipWith (fun channel x => channel ++ [f x]) xs) := by
  induction xs generalizing before after with
  | nil =>
    rw [List.length_eq_zero_iff.mp count]
    rfl
  | cons x xs ih =>
    cases after with
    | nil => cases count
    | cons channel after =>
      have pushed : push (before ++ channel :: after) before.length (f x) =
          .ok ((before ++ [channel ++ [f x]]) ++ after) := by
        rw [push, Checked.item_eq (x := channel) (by simp), Checked.ok_bind]
        simp [pure, Except.pure]
      rw [List.zipIdx_cons, List.foldlM_cons, pushed, Checked.ok_bind]
      have rest := ih (before ++ [channel ++ [f x]]) after (Nat.succ.inj count)
      rw [List.length_append, List.length_singleton] at rest
      rw [rest, List.append_assoc]
      rfl

theorem deal_separate (f : α → β) (done : List (Vector β c)) (s : Vector α c) :
    deal f (Slice.separate done) s.toList = .ok (Slice.separate (done ++ [s.map f])) := by
  have dealt := foldlM_push f [] (Slice.separate done) s.toList (by simp [Slice.separate])
  refine dealt.trans (congrArg Except.ok ?_)
  apply List.ext_getElem <;> simp [Slice.separate]

theorem foldlM_deal (f : α → β) (done : List (Vector β c)) (slices : List (Vector α c)) :
    slices.foldlM (fun out s => deal f out s.toList) (Slice.separate done) =
      .ok (Slice.separate (done ++ slices.map (·.map f))) := by
  induction slices generalizing done with
  | nil =>
    rw [List.map_nil, List.append_nil]
    rfl
  | cons s slices ih =>
    rw [List.foldlM_cons, deal_separate, Checked.ok_bind, ih, List.append_assoc]
    rfl

theorem toChannels_eq (b : Buffer) (layout : Layout) (channels : Nat) :
    toChannels b layout channels = .ok (b.toChannels layout channels) := by
  obtain ⟨k, planes⟩ := b
  cases layout with
  | planar => rfl
  | interleaved =>
    cases planes with
    | nil => rfl
    | cons plane planes =>
      have none : List.replicate (max 1 channels) [] =
          Slice.separate ([] : List (Vector Single (max 1 channels))) := by
        apply List.ext_getElem <;> simp [Slice.separate]
      unfold toChannels Buffer.toChannels
      dsimp only
      rw [none, foldlM_deal, Slice.deinterleave_map]
      rfl

theorem ofChannels_eq (k : Kind) (layout : Layout) {channels : List (List Single)}
    (fits : (channels.headD []).length * channels.length < 2 ^ 64) :
    ofChannels k layout channels = .ok (Buffer.ofChannels k layout channels) := by
  unfold ofChannels Buffer.ofChannels
  dsimp only
  split
  · next even =>
    cases layout with
    | planar => rfl
    | interleaved =>
      have dealt := rows_separate (Slice.sideBySide channels rfl even)
      rw [Slice.length_sideBySide, Slice.separate_sideBySide] at dealt
      dsimp only
      rw [Checked.mul_eq fits, Checked.ok_bind, dealt]
      rfl
  · rfl

end Guarded

end Buffer

end Overdub
