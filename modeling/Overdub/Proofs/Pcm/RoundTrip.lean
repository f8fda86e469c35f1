import Overdub.Proofs.Pcm.Layout

/-!
Channels of floats, kept as planes and taken out again. Packed or not, the planes give back the
channels that were put into them, every scalar as its kind could keep it.
-/

namespace Overdub

namespace Slice

variable {α β : Type} {c n : Nat}

@[simp] theorem length_sideBySide {planes : List (List α)} (hc : planes.length = c)
    (hn : ∀ p ∈ planes, p.length = n) : (sideBySide planes hc hn).length = n := by
  simp [sideBySide]

theorem separate_sideBySide {planes : List (List α)} (hc : planes.length = c)
    (hn : ∀ p ∈ planes, p.length = n) : separate (sideBySide planes hc hn) = planes := by
  apply List.ext_getElem
  · simp [separate, hc]
  · intro j hj hj'
    apply List.ext_getElem
    · simp [separate, hn]
    · intro i _ _
      simp [separate, sideBySide]

theorem map_interleave (f : α → β) (a : List (Vector α c)) :
    (interleave a).map f = interleave (a.map (·.map f)) := by
  simp [interleave, List.map_flatMap, List.flatMap_map, Vector.toList_map]

theorem map_separate (f : α → β) (a : List (Vector α c)) :
    (separate a).map (·.map f) = separate (a.map (·.map f)) := by
  apply List.ext_getElem <;> simp [separate]

end Slice

namespace Buffer

variable {k : Kind} {layout : Layout} {c n : Nat} {channels : List (List Single)}

theorem toChannels_interleave (hc : 0 < c) (a : List (Slice k c)) :
    toChannels ⟨k, [Slice.interleave a]⟩ .interleaved c =
      (Slice.separate a).map (·.map k.toSingle) := by
  have cut : ∀ d (hd : 0 < d), d = c →
      Slice.separate (Slice.deinterleave hd ((Slice.interleave a).map k.toSingle)) =
        (Slice.separate a).map (·.map k.toSingle) := by
    rintro _ hd rfl
    rw [Slice.map_interleave, Slice.deinterleave_interleave, Slice.map_separate]
  exact cut (max 1 c) (by omega) (Nat.max_eq_right hc)

theorem length_head (even : ∀ p ∈ channels, p.length = n) (some : channels ≠ []) :
    (channels.headD []).length = n := by
  cases channels with
  | nil => exact absurd rfl some
  | cons p ps => exact even p List.mem_cons_self

theorem ofChannels_eq (k : Kind) (layout : Layout) (even : ∀ p ∈ channels, p.length = n)
    (some : channels ≠ []) :
    ofChannels k layout channels = .ok ⟨k, match layout with
      | .planar => channels.map (·.map k.ofSingle)
      | .interleaved =>
        [Slice.interleave ((Slice.sideBySide channels rfl even).map (·.map k.ofSingle))]⟩ := by
  obtain rfl := length_head even some
  refine (dif_pos even).trans ?_
  cases layout with
  | planar => rfl
  | interleaved => rw [Slice.map_interleave]

theorem toChannels_ofChannels (k : Kind) (layout : Layout) (even : ∀ p ∈ channels, p.length = n)
    (some : channels ≠ []) :
    ∃ b, ofChannels k layout channels = .ok b ∧
      b.planes.length = Format.planeCount ⟨k, layout⟩ channels.length ∧
      b.toChannels layout channels.length =
        channels.map (·.map fun x => k.toSingle (k.ofSingle x)) := by
  refine ⟨_, ofChannels_eq k layout even some, ?_⟩
  cases layout with
  | planar => simp [toChannels, Format.planeCount, Function.comp_def]
  | interleaved =>
    refine ⟨rfl, ?_⟩
    dsimp only
    rw [toChannels_interleave (List.length_pos_iff.mpr some), ← Slice.map_separate,
      Slice.separate_sideBySide]
    simp [Function.comp_def]

theorem exists_first_uneven (uneven : ¬ ∃ n, ∀ p ∈ channels, p.length = n) :
    ∃ first before other after, channels = first :: (before ++ other :: after) ∧
      (∀ p ∈ before, p.length = first.length) ∧ other.length ≠ first.length := by
  cases channels with
  | nil => exact absurd ⟨0, by simp⟩ uneven
  | cons first rest =>
    cases found : rest.find? fun p => p.length != first.length with
    | none => exact absurd ⟨first.length, by simpa using found⟩ uneven
    | some other =>
      obtain ⟨ne, before, after, rfl, same⟩ := List.find?_eq_some_iff_append.mp found
      exact ⟨first, before, other, after, rfl, by simpa using same, by simpa using ne⟩

theorem ofChannels_uneven (k : Kind) (layout : Layout) {first other : List Single}
    {before after : List (List Single)} (same : ∀ p ∈ before, p.length = first.length)
    (ne : other.length ≠ first.length) :
    ofChannels k layout (first :: (before ++ other :: after)) =
      .error (.planeLength first.length other.length) := by
  let channels := first :: (before ++ other :: after)
  have uneven : ¬ ∀ p ∈ channels, p.length = first.length :=
    fun even => ne (even other (by simp [channels]))
  have found : (channels.map (·.length)).find? (· != first.length) = some other.length := by
    rw [List.find?_map, Option.map_eq_some_iff]
    refine ⟨other, ?_, rfl⟩
    rw [List.find?_eq_some_iff_append]
    exact ⟨by simpa using ne, first :: before, after, rfl, by simpa using same⟩
  refine (dif_neg uneven).trans ?_
  exact congrArg (fun l => Except.error
    (FrameError.planeLength first.length (Option.getD l first.length))) found

/-- Channels of one length come back from either layout as their kind could keep them. Otherwise the
error names the length of the first channel and the first length that differs from it. -/
theorem returns_its_channels (k : Kind) {channels : List (List Single)} (some : channels ≠ []) :
    (∀ n, (∀ p ∈ channels, p.length = n) → ∀ layout, ∃ b,
      ofChannels k layout channels = .ok b ∧
        b.planes.length = Format.planeCount ⟨k, layout⟩ channels.length ∧
        b.toChannels layout channels.length =
          channels.map (·.map fun x => k.toSingle (k.ofSingle x)) ∧
        (k = .f32 → b.toChannels layout channels.length = channels)) ∧
    ((¬ ∃ n, ∀ p ∈ channels, p.length = n) → ∃ first before other after,
      channels = first :: (before ++ other :: after) ∧
        (∀ p ∈ before, p.length = first.length) ∧ other.length ≠ first.length ∧
        ∀ layout, ofChannels k layout channels =
          .error (.planeLength first.length other.length)) := by
  constructor
  · intro n even layout
    obtain ⟨b, made, count, back⟩ := toChannels_ofChannels k layout even some
    refine ⟨b, made, count, back, ?_⟩
    rintro rfl
    exact back.trans (by simp [Kind.toSingle, Kind.ofSingle])
  · intro uneven
    obtain ⟨first, before, other, after, rfl, same, ne⟩ := exists_first_uneven uneven
    exact ⟨first, before, other, after, rfl, same, ne, fun l => ofChannels_uneven k l same ne⟩

theorem returns_its_channels_two_channels :
    let channels := [[⟨0x3f000000⟩, ⟨0⟩, ⟨0x7fc00000⟩], [⟨1⟩, ⟨2⟩, ⟨0x80000000⟩]]
    channels ≠ [] ∧ (∀ p ∈ channels, p.length = 3) ∧
      ∃ b, ofChannels .f32 .interleaved channels = .ok b ∧
        b.toChannels .interleaved 2 = channels := by
  intro channels
  have some : channels ≠ [] := by decide
  have even : ∀ p ∈ channels, p.length = 3 := by decide
  obtain ⟨b, made, -, -, back⟩ := (returns_its_channels .f32 some).1 3 even .interleaved
  exact ⟨some, even, b, made, back rfl⟩

end Buffer

end Overdub
