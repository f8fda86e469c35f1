import Overdub.Proofs.Pcm.RoundTrip

/-!
The planes of a frame. A frame is known by its planes, which are as many and as long as its stream
asks for, and it is made of any planes that are so.
-/

namespace Overdub

namespace Slice

variable {α : Type} {c : Nat}

theorem separate_replicate (n : Nat) (x : α) :
    separate (.replicate n (.replicate c x)) = .replicate c (.replicate n x) := by
  apply List.ext_getElem <;> simp [separate]

theorem interleave_replicate (n : Nat) (x : α) :
    interleave (.replicate n (.replicate c x)) = .replicate (n * c) x := by
  simp [interleave, List.flatMap, Vector.toList_replicate]

end Slice

namespace Buffer

variable {b : Buffer} {s : Stream} {n : Nat}

structure Fits (b : Buffer) (s : Stream) : Prop where
  kind_eq : b.kind = s.format.kind
  count_eq : b.planes.length = s.format.planeCount s.channels
  even : ∃ n, (∀ p ∈ b.planes, p.length = n) ∧
    (s.format.layout = .interleaved → s.channels ∣ n)

/-- Planes with `n` samples of every channel of stream `s`. -/
structure Holds (b : Buffer) (s : Stream) (n : Nat) : Prop where
  kind_eq : b.kind = s.format.kind
  count_eq : b.planes.length = s.format.planeCount s.channels
  length_eq : ∀ p ∈ b.planes, p.length = n * s.stride

theorem fits_iff : b.Fits s ↔ ∃ n, b.Holds s n := by
  constructor
  · rintro ⟨kind, count, n, even, whole⟩
    cases layout : s.format.layout with
    | planar => exact ⟨n, kind, count, by simpa [Stream.stride, layout] using even⟩
    | interleaved =>
      obtain ⟨m, rfl⟩ := whole layout
      exact ⟨m, kind, count, by simpa [Stream.stride, layout, Nat.mul_comm] using even⟩
  · rintro ⟨n, kind, count, length⟩
    refine ⟨kind, count, _, length, ?_⟩
    intro packed
    rw [Stream.stride, packed]
    exact Nat.dvd_mul_left _ _

theorem exists_ofChannels {channels : List (List Single)} (even : ∀ p ∈ channels, p.length = n)
    (some : channels ≠ []) (count : channels.length = s.channels) :
    ∃ b, ofChannels s.format.kind s.format.layout channels = .ok b ∧ b.Holds s n := by
  refine ⟨_, ofChannels_eq _ _ even some, rfl, ?_, ?_⟩
  · cases layout : s.format.layout <;> simp [Format.planeCount, layout, count]
  · cases layout : s.format.layout with
    | planar => simpa [Stream.stride, layout] using even
    | interleaved => simp [Stream.stride, layout, Slice.length_interleave, count]

theorem even_of_ofChannels {k : Kind} {layout : Layout} {channels : List (List Single)}
    (made : ofChannels k layout channels = .ok b) : ∃ n, ∀ p ∈ channels, p.length = n := by
  refine Classical.byContradiction fun uneven => ?_
  obtain ⟨first, before, other, after, rfl, same, ne⟩ := exists_first_uneven uneven
  rw [ofChannels_uneven k layout same ne] at made
  cases made

end Buffer

namespace Frame

variable {s : Stream} {tb : TimeBase} {pts : Option Int} {b : Buffer} {f : Frame} {n : Nat}

theorem holds_buffer (f : Frame) : f.buffer.Holds f.stream f.length := by
  refine ⟨rfl, ?_, ?_⟩
  · unfold buffer planes Format.planeCount
    cases f.stream.format.layout <;> simp [Slice.separate]
  · unfold buffer planes Stream.stride
    cases f.stream.format.layout <;> simp [Slice.separate, Slice.length_interleave, length]

theorem exists_buffer_eq (h : b.Holds s n) (rate_ne : s.rate ≠ 0) (channels_ne : s.channels ≠ 0)
    (tb : TimeBase) (pts : Option Int) :
    ∃ f : Frame, f.stream = s ∧ f.timeBase = tb ∧ f.pts = pts ∧ f.buffer = b ∧ f.length = n := by
  obtain ⟨r, c, k, l⟩ := s
  obtain ⟨k', planes⟩ := b
  obtain ⟨kind, count, length⟩ := h
  change k' = k at kind
  subst kind
  dsimp only at count length
  have pos : 0 < c := Stream.channels_pos channels_ne
  cases l with
  | planar =>
    have long : ∀ p ∈ planes, p.length = n := by simpa [Stream.stride] using length
    refine ⟨⟨_, tb, pts, Slice.sideBySide planes count long, rate_ne, pos⟩, rfl, rfl, rfl, ?_, ?_⟩
    · exact congrArg (Buffer.mk _) (Slice.separate_sideBySide count long)
    · exact Slice.length_sideBySide count long
  | interleaved =>
    obtain ⟨plane, rfl⟩ := List.length_eq_one_iff.mp count
    have long : plane.length = n * c := length plane List.mem_cons_self
    have same := Slice.interleave_deinterleave pos long
    refine ⟨⟨_, tb, pts, Slice.deinterleave pos plane, rate_ne, pos⟩, rfl, rfl, rfl, ?_, ?_⟩
    · exact congrArg (fun p => Buffer.mk _ [p]) same
    · apply Nat.eq_of_mul_eq_mul_right pos
      exact (Slice.length_interleave _).symm.trans ((congrArg List.length same).trans long)

theorem fits_of_ofBuffer (made : ofBuffer s tb pts b = .ok f) :
    s.rate ≠ 0 ∧ s.channels ≠ 0 ∧ b.Fits s := by
  obtain ⟨r, c, k, l⟩ := s
  obtain ⟨k', planes⟩ := b
  unfold ofBuffer at made
  split at made
  · cases made
  next rate_ne =>
  split at made
  · cases made
  next channels_ne =>
  refine ⟨rate_ne, channels_ne, ?_⟩
  split at made
  · next kind =>
    change k' = k at kind
    subst kind
    dsimp only at made
    split at made
    · next count =>
      split at made
      · next even =>
        refine ⟨rfl, count, _, even, ?_⟩
        split at made
        · rintro ⟨⟩
        · intro _
          split at made
          · next whole => exact Nat.dvd_of_mod_eq_zero whole
          · cases made
      · cases made
    · cases made
  · cases made

theorem ofBuffer_eq_ok_iff :
    ofBuffer s tb pts b = .ok f ↔
      f.stream = s ∧ f.timeBase = tb ∧ f.pts = pts ∧ f.buffer = b := by
  constructor
  · intro made
    obtain ⟨rate_ne, channels_ne, fits⟩ := fits_of_ofBuffer made
    obtain ⟨n, holds⟩ := Buffer.fits_iff.mp fits
    obtain ⟨g, rfl, rfl, rfl, rfl, -⟩ := exists_buffer_eq holds rate_ne channels_ne tb pts
    rw [ofBuffer_buffer] at made
    cases made
    exact ⟨rfl, rfl, rfl, rfl⟩
  · rintro ⟨rfl, rfl, rfl, rfl⟩
    exact ofBuffer_buffer f

theorem exists_ofBuffer_iff :
    (∃ f, ofBuffer s tb pts b = .ok f) ↔ s.rate ≠ 0 ∧ s.channels ≠ 0 ∧ b.Fits s := by
  constructor
  · rintro ⟨f, made⟩
    exact fits_of_ofBuffer made
  · rintro ⟨rate_ne, channels_ne, fits⟩
    obtain ⟨n, holds⟩ := Buffer.fits_iff.mp fits
    obtain ⟨f, rfl, rfl, rfl, rfl, -⟩ := exists_buffer_eq holds rate_ne channels_ne tb pts
    exact ⟨f, ofBuffer_buffer f⟩

theorem exists_silence (rate_ne : s.rate ≠ 0) (channels_ne : s.channels ≠ 0) (tb : TimeBase)
    (pts : Option Int) (fits : n * s.stride < 2 ^ 64) :
    ∃ f, silence s tb pts n = .ok f ∧ f.length = n ∧ ofBuffer s tb pts
      (.silence s.format.kind (s.format.planeCount s.channels) (n * s.stride)) = .ok f := by
  unfold silence
  rw [dif_neg rate_ne, dif_neg channels_ne, if_neg (Nat.not_le_of_lt fits)]
  refine ⟨_, rfl, List.length_replicate, ?_⟩
  refine ofBuffer_eq_ok_iff.mpr ⟨rfl, rfl, rfl, ?_⟩
  unfold buffer planes Buffer.silence Stream.stride Format.planeCount
  cases s.format.layout with
  | planar => simp [Slice.separate_replicate]
  | interleaved => simp [Slice.interleave_replicate]

theorem exists_of_ofChannels {channels : List (List Single)}
    (made : ofChannels s tb pts channels = .ok f) :
    ∃ b, Buffer.ofChannels s.format.kind s.format.layout channels = .ok b ∧
      channels.length = s.channels ∧ ofBuffer s tb pts b = .ok f := by
  unfold ofChannels at made
  split at made
  · cases made
  · next count =>
    cases kept : Buffer.ofChannels s.format.kind s.format.layout channels with
    | error e =>
      rw [kept] at made
      cases made
    | ok b =>
      rw [kept] at made
      exact ⟨b, rfl, Decidable.of_not_not count, made⟩

theorem exists_ofChannels_iff {channels : List (List Single)} :
    (∃ f, ofChannels s tb pts channels = .ok f) ↔
      s.rate ≠ 0 ∧ s.channels ≠ 0 ∧ channels.length = s.channels ∧
        ∃ n, ∀ p ∈ channels, p.length = n := by
  constructor
  · rintro ⟨f, made⟩
    obtain ⟨b, kept, count, made⟩ := exists_of_ofChannels made
    obtain ⟨rate_ne, channels_ne, -⟩ := fits_of_ofBuffer made
    exact ⟨rate_ne, channels_ne, count, Buffer.even_of_ofChannels kept⟩
  · rintro ⟨rate_ne, channels_ne, count, n, even⟩
    have some : channels ≠ [] := by
      rintro rfl
      exact channels_ne count.symm
    obtain ⟨b, kept, holds⟩ := Buffer.exists_ofChannels even some count
    rw [ofChannels, if_neg (not_not_intro count), kept]
    exact exists_ofBuffer_iff.mpr ⟨rate_ne, channels_ne, Buffer.fits_iff.mpr ⟨n, holds⟩⟩

end Frame

end Overdub
