import Overdub.Proofs.Pcm.Edit
import Overdub.Proofs.Pcm.Guarded
import Overdub.Proofs.Playback.Overlay
import Overdub.Wave.Writer

/-!
Frames keep their shape, so that no work on their planes asks for a place that is not there: not
the mixer, nor what writes their scalars or gives their channels.
-/

namespace Overdub

open Checked (Fault)

namespace Frame

open Buffer

theorem toChannels_eq_separate (f : Frame) :
    f.toChannels = Slice.separate (f.slices.map (·.map f.stream.format.kind.toSingle)) := by
  obtain ⟨⟨r, c, k, l⟩, tb, pts, slices, hr, hc⟩ := f
  cases l with
  | planar => exact Slice.map_separate ..
  | interleaved => exact (toChannels_interleave hc slices).trans (Slice.map_separate ..)

theorem scalars_eq (f : Frame) (k : Kind) :
    Guarded.scalars f.buffer f.format.layout f.channels f.length k = .ok (f.scalarsAs k) := by
  unfold Guarded.scalars scalarsAs
  by_cases same : f.stream.format.kind = k
  · subst same
    have planes : f.buffer.planesAs? f.stream.format.kind = some f.planes := dif_pos rfl
    rw [planes, dif_pos rfl]
    unfold Frame.planes format
    cases f.stream.format.layout with
    | planar => exact Guarded.rows_separate f.slices
    | interleaved => rfl
  · have none : f.buffer.planesAs? k = none := dif_neg same
    have count : f.toChannels.length ≤ f.channels := by
      rw [toChannels_eq_separate]
      simp [Slice.separate, channels]
    have dealt := Guarded.rows_separate (f.slices.map (·.map f.stream.format.kind.toSingle))
    rw [List.length_map, ← toChannels_eq_separate] at dealt
    rw [none, dif_neg same]
    dsimp only
    rw [Guarded.toChannels_eq, Checked.ok_bind]
    change (Guarded.rows f.slices.length (f.toChannels.take f.channels) >>= _) = _
    rw [List.take_of_length_le count, dealt, Checked.ok_bind, ← Slice.map_interleave, List.map_map]
    rfl

/-- The places in every plane can be told in machine words, as in any plane that is held in
memory. -/
def Held (f : Frame) : Prop := ∀ p ∈ f.planes, p.length < 2 ^ 64

theorem Held.size_lt {f : Frame} (held : f.Held) : f.length * f.stream.stride < 2 ^ 64 := by
  obtain ⟨-, count, length⟩ := f.holds_buffer
  have some : 0 < f.planes.length := by
    refine count.symm ▸ ?_
    have := f.channels_pos
    unfold Format.planeCount
    split <;> omega
  obtain ⟨p, mem⟩ := List.exists_mem_of_length_pos some
  exact length p mem ▸ held p mem

theorem Held.length_lt {f : Frame} (held : f.Held) : f.length < 2 ^ 64 := by
  have pos : 0 < f.stream.stride := by
    have := f.channels_pos
    unfold Stream.stride
    split <;> omega
  exact Nat.lt_of_le_of_lt (Nat.le_mul_of_pos_right _ pos) held.size_lt

theorem Held.of_length {f g : Frame} (held : f.Held) (stream : g.stream = f.stream)
    (length : g.length = f.length) : g.Held := by
  intro p mem
  have size : p.length = g.length * g.stream.stride := g.holds_buffer.length_eq p mem
  rw [size, stream, length]
  exact held.size_lt

def withSlices (f : Frame) (slices : List (Slice f.stream.format.kind f.stream.channels)) : Frame :=
  { f with slices }

theorem mix_eq {f src : Frame} {speech : List (Slice f.stream.format.kind f.stream.channels)}
    (same : src.slicesAs? f.stream.format f.stream.channels = some speech) (held : f.Held)
    (held' : src.Held) (g : Gains) {i j n : Nat} (h : i + n ≤ f.length) (h' : j + n ≤ src.length) :
    Guarded.mix g f.format f.channels f.buffer i src.buffer j n =
      .ok (f.withSlices (Slice.lay (Slice.mix g) f.slices i speech j n)).buffer := by
  obtain ⟨⟨r, c, k, l⟩, tb, pts, slices, hr, hc⟩ := f
  obtain ⟨⟨r', c', k', l'⟩, tb', pts', slices', hr', hc'⟩ := src
  unfold slicesAs? at same
  split at same
  · next alike =>
    obtain ⟨formats, counts⟩ := alike
    change Format.mk k' l' = Format.mk k l at formats
    change c' = c at counts
    cases formats
    cases counts
    cases same
    refine (Guarded.mix_same _ _ l c).trans ?_
    cases l with
    | planar =>
      have fits : slices.length * 1 < 2 ^ 64 := held.size_lt
      have fits' : slices'.length * 1 < 2 ^ 64 := held'.size_lt
      rw [Nat.mul_one] at fits fits'
      have mixed := Guarded.mixPlanar_eq (g := g) h h' fits fits'
      exact congrArg (· >>= fun planes => Except.ok (Buffer.mk k planes)) mixed
    | interleaved =>
      have mixed := Guarded.mixPacked_eq (g := g) hc h h' held.size_lt held'.size_lt
      exact congrArg (· >>= fun planes => Except.ok (Buffer.mk k planes)) mixed
  · cases same

end Frame

namespace Mixer

open Queue (Within)

/-- Lays queued speech over the planes of a frame of `length` samples, from sample `i` on. A queued
frame that is not used up has filled them. -/
def Guarded.overlay (g : Gains) (fmt : Format) (channels length : Nat) (planes : Buffer)
    (i offset : Nat) : List QueuedFrame → Except Fault Buffer
  | [] => .ok planes
  | f :: frames =>
    if f.frame.format = fmt ∧ f.frame.channels = channels then do
      let left ← Checked.sub length i
      let n := min left (f.frame.length - offset)
      let planes ← Buffer.Guarded.mix g fmt channels planes i f.frame.buffer offset n
      let i ← Checked.add i n
      if length ≤ i then return planes else overlay g fmt channels length planes i 0 frames
    else .ok planes

variable {g : Gains} {f : Frame} {q : QueuedFrame} {frames : List QueuedFrame} {i offset : Nat}
  {p s : List (Slice f.stream.format.kind f.stream.channels)}

theorem Guarded.overlay_cons (alike : q.frame.Fits f.stream.format f.stream.channels)
    (same : q.frame.slicesAs? f.stream.format f.stream.channels = some s) (held : f.Held)
    (held' : q.frame.Held) (length : p.length = f.length) (h : i ≤ p.length)
    (below : offset ≤ s.length) (frames : List QueuedFrame) :
    let n := min (p.length - i) (s.length - offset)
    let laid := Slice.lay (Slice.mix g) p i s offset n
    overlay g f.format f.channels p.length (f.withSlices p).buffer i offset (q :: frames) =
      if p.length ≤ i + n then .ok (f.withSlices laid).buffer
      else overlay g f.format f.channels p.length (f.withSlices laid).buffer (i + n) 0 frames := by
  intro n laid
  have size : s.length = q.frame.length := Frame.length_of_slicesAs? same
  have word : p.length < 2 ^ 64 := length ▸ held.length_lt
  have mixed : Buffer.Guarded.mix g f.format f.channels (f.withSlices p).buffer i q.frame.buffer
      offset n = .ok (f.withSlices laid).buffer :=
    Frame.mix_eq (f := f.withSlices p) same (held.of_length rfl length) held' g
      (show i + n ≤ p.length by omega) (by omega)
  refine (if_pos alike).trans ?_
  rw [Checked.sub_eq h, Checked.ok_bind, ← size]
  change (Buffer.Guarded.mix g f.format f.channels (f.withSlices p).buffer i q.frame.buffer
    offset n >>= _) = _
  rw [mixed, Checked.ok_bind, Checked.add_eq (by omega), Checked.ok_bind]
  rfl

theorem slices_overlay_cons (same : q.frame.slicesAs? f.stream.format f.stream.channels = some s)
    (below : offset ≤ s.length) (slices : List (Slice f.stream.format.kind f.stream.channels))
    (last : Option CueId) (frames : List QueuedFrame) :
    (overlay g _ _ slices offset last (q :: frames)).slices =
      slices.zipWith (Slice.mix g) (s.drop offset) ++
        if slices.length ≤ s.length - offset then []
        else (overlay g _ _ (slices.drop (s.length - offset)) 0
          (lastAfter (s.length - offset) last q.cue) frames).slices := by
  rw [overlay_cons same below]
  by_cases full : slices.length ≤ s.length - offset
  · have none : slices.drop (s.length - offset) = [] := List.drop_eq_nil_iff.mpr full
    rw [if_pos full, if_pos none]
    split
    · exact (List.append_nil _).symm
    · rfl
  · have some : slices.drop (s.length - offset) ≠ [] := fun none =>
      full (List.drop_eq_nil_iff.mp none)
    rw [if_neg full, if_neg some, if_neg (by omega)]
    rfl

theorem overlay_eq (held : f.Held) (others : ∀ q ∈ frames, q.frame.Held)
    (within : Within offset frames) (length : p.length = f.length) (h : i ≤ p.length)
    (last : Option CueId) :
    Guarded.overlay g f.format f.channels p.length (f.withSlices p).buffer i offset frames =
      .ok (f.withSlices
        (p.take i ++ (overlay g _ _ (p.drop i) offset last frames).slices)).buffer := by
  induction frames generalizing p i offset last with
  | nil =>
    rw [overlay, List.take_append_drop]
    rfl
  | cons q frames ih =>
    by_cases alike : q.frame.Fits f.stream.format f.stream.channels
    · obtain ⟨s, same, below⟩ := exists_slicesAs?_of_within alike within
      let n := min (p.length - i) (s.length - offset)
      let front := p.take i ++ (p.drop i).zipWith (Slice.mix g) (s.drop offset)
      have reach : front.length = i + n := Slice.length_front _ h
      have stays : (front ++ p.drop (i + n)).length = p.length := by
        rw [List.length_append, List.length_drop]
        omega
      rw [Guarded.overlay_cons alike same held (others q List.mem_cons_self) length h below,
        Slice.lay_min, slices_overlay_cons same below, ← List.append_assoc, List.length_drop]
      split
      · next full =>
        rw [List.drop_eq_nil_iff.mpr full, if_pos (by omega)]
      · next room =>
        have all : n = s.length - offset := by omega
        have rest := ih (fun q mem => others q (List.mem_cons_of_mem _ mem)) (.inl rfl)
          (stays.trans length) (i := i + n) (by omega) (lastAfter (s.length - offset) last q.cue)
        rw [stays, List.take_left' reach, List.drop_left' reach] at rest
        rw [if_neg (by omega), List.drop_drop]
        refine rest.trans ?_
        rw [all]
    · have none : q.frame.slicesAs? f.stream.format f.stream.channels = none := dif_neg alike
      rw [overlay, none, List.take_append_drop]
      exact if_neg alike

end Mixer

namespace Frame

open Buffer
open Queue (Within)

/-- Nothing that is done with the planes asks for a place that is not there. -/
structure InBounds (f : Frame) : Prop where
  toChannels_eq : Guarded.toChannels f.buffer f.format.layout f.channels = .ok f.toChannels
  scalars_eq : ∀ k,
    Guarded.scalars f.buffer f.format.layout f.channels f.length k = .ok (f.scalarsAs k)
  mix_eq : ∀ (src : Frame) speech, src.slicesAs? f.stream.format f.stream.channels = some speech →
    f.Held → src.Held → ∀ g i j n, i + n ≤ f.length → j + n ≤ src.length →
      Guarded.mix g f.format f.channels f.buffer i src.buffer j n =
        .ok (f.withSlices (Slice.lay (Slice.mix g) f.slices i speech j n)).buffer
  overlay_eq : ∀ frames offset, f.Held → (∀ q ∈ frames, q.frame.Held) → Within offset frames →
    ∀ g, Mixer.Guarded.overlay g f.format f.channels f.length f.buffer 0 offset frames =
      .ok (f.withSlices (Mixer.overlay g _ _ f.slices offset none frames).slices).buffer

theorem inBounds (f : Frame) : f.InBounds where
  toChannels_eq := Guarded.toChannels_eq ..
  scalars_eq := f.scalars_eq
  mix_eq _ _ same held held' g _ _ _ h h' := mix_eq same held held' g h h'
  overlay_eq _ _ held others within _ :=
    Mixer.overlay_eq held others within rfl (Nat.zero_le _) none

inductive Made (s : Stream) (tb : TimeBase) (pts : Option Int) : Frame → Prop
  | ofBuffer {b f} : ofBuffer s tb pts b = .ok f → Made s tb pts f
  | silence {n f} : silence s tb pts n = .ok f → Made s tb pts f
  | ofChannels {channels f} : ofChannels s tb pts channels = .ok f → Made s tb pts f

theorem Made.stream_eq {s : Stream} {tb : TimeBase} {pts : Option Int} {f : Frame}
    (made : Made s tb pts f) : f.stream = s := by
  cases made with
  | ofBuffer made => exact (ofBuffer_eq_ok_iff.mp made).1
  | silence made =>
    unfold Frame.silence at made
    split at made
    · cases made
    · split at made
      · cases made
      · split at made <;> cases made
        rfl
  | ofChannels made =>
    obtain ⟨b, -, -, made⟩ := exists_of_ofChannels made
    exact (ofBuffer_eq_ok_iff.mp made).1

/-- A frame is made of just the planes that fit its stream, and has these planes. Silence fits
as long as the places in its planes are machine words, and so do channels of one length, a channel
for each of the stream. Through all edits
the planes keep the number and the lengths that the stream and the samples ask for, so that no work
on them asks for a place outside. -/
theorem keeps_its_shape (s : Stream) (tb : TimeBase) (pts : Option Int) :
    (∀ b, (∃ f, ofBuffer s tb pts b = .ok f) ↔ s.rate ≠ 0 ∧ s.channels ≠ 0 ∧ b.Fits s) ∧
    (∀ b f, ofBuffer s tb pts b = .ok f ↔
      f.stream = s ∧ f.timeBase = tb ∧ f.pts = pts ∧ f.buffer = b) ∧
    (s.rate ≠ 0 → s.channels ≠ 0 → ∀ n,
      if n * s.stride < 2 ^ 64 then ∃ f, silence s tb pts n = .ok f ∧ f.length = n ∧
        f.buffer = .silence s.format.kind (s.format.planeCount s.channels) (n * s.stride)
      else silence s tb pts n = .error .overflow) ∧
    (∀ channels, ((∃ f, ofChannels s tb pts channels = .ok f) ↔
        s.rate ≠ 0 ∧ s.channels ≠ 0 ∧ channels.length = s.channels ∧
          ∃ n, ∀ p ∈ channels, p.length = n) ∧
      ((channels.headD []).length * channels.length < 2 ^ 64 →
        Guarded.ofChannels s.format.kind s.format.layout channels =
          .ok (Buffer.ofChannels s.format.kind s.format.layout channels))) ∧
    ∀ f, Made s tb pts f → ∀ edits,
      let g := f.editAll edits
      f.Edited g (edits.foldl (fun now e => e.apply now) (f.pts, f.buffer)) ∧
        g.buffer.Holds s f.length ∧ g.InBounds := by
  refine ⟨fun _ => exists_ofBuffer_iff, fun _ _ => ofBuffer_eq_ok_iff, ?_, ?_, ?_⟩
  · intro rate_ne channels_ne n
    split
    · next fits =>
      obtain ⟨f, silent, length, made⟩ := exists_silence rate_ne channels_ne tb pts fits
      exact ⟨f, silent, length, (ofBuffer_eq_ok_iff.mp made).2.2.2⟩
    · next large =>
      unfold silence
      rw [dif_neg rate_ne, dif_neg channels_ne, if_pos (Nat.not_lt.mp large)]
  · intro channels
    exact ⟨exists_ofChannels_iff, Guarded.ofChannels_eq _ _⟩
  · intro f made edits g
    have edited := f.edited_editAll edits
    have holds := g.holds_buffer
    rw [edited.stream_eq, edited.length_eq, made.stream_eq] at holds
    exact ⟨edited, holds, g.inBounds⟩

/-- Silence of 2^62 samples on four channels takes more scalars than can be counted. -/
theorem silence_overflows :
    let s : Stream := ⟨8000, 4, ⟨.s16, .interleaved⟩⟩
    s.check = .ok () ∧
      silence s (.perSample 8000 (by decide)) (some 0) (2 ^ 62) = .error .overflow :=
  ⟨rfl, rfl⟩

end Frame

end Overdub
