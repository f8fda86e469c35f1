import Overdub.Proofs.Pcm.Channel
import Overdub.Proofs.Speech.Pieces
import Overdub.Proofs.Time.Rescale

/-!
The timeline of fitted speech. However an utterance is cut, its length is rounded once at each
stage, and every frame starts where the samples before it end.
-/

namespace Overdub

namespace RateConverter

theorem length_whole_start {source target : UInt32} {h : source ≠ 0}
    (delivers : (start source target h).Delivers) (xs : List Float32) :
    ((start source target h).whole xs).length =
      lengthAt source.toNat target.toNat xs.length := by
  have count := length_push_flush (balanced_start source target h) delivers xs
  simp only [start, Nat.zero_add] at count
  exact count

end RateConverter

namespace Stretch

/-- The length of `n` samples at another speed. -/
def lengthAt (speed : Float) (n : Nat) : Nat :=
  if speed == 1 then n else Pace.output ⟨.ofFloat speed⟩ n

theorem length_whole_start {speed : Float} {s : Stretch} (started : start? speed = .ok s)
    (xs : List Float32) : (s.whole xs).length = Pace.output ⟨.ofFloat speed⟩ xs.length := by
  have steady := steady_start started
  unfold start? at started
  split at started <;> cases started
  have count := length_push_flush steady (Nat.zero_le _) xs
  simp only [Nat.zero_add] at count
  exact count

end Stretch

namespace Fitter

variable {f : Fitter} {source target : Stream} {timeBase : TimeBase} {speed : Float}

theorem Fresh.length_whole (h : f.Fresh source target timeBase speed) (inward : f.inward.Delivers)
    (outward : f.outward.Delivers) (xs : List Float32) :
    (f.stages.whole xs).length =
      RateConverter.lengthAt 48000 target.rate.toNat
        (Stretch.lengthAt speed (RateConverter.lengthAt source.rate.toNat 48000 xs.length)) := by
  obtain ⟨_, first⟩ := h.exists_inward
  obtain ⟨s, started, stretch⟩ := h.exists_stretch
  rw [first] at inward
  rw [h.outward_eq] at outward
  have middle : ∀ ys, (Stretch.whole? f.stretch ys).length = Stretch.lengthAt speed ys.length := by
    intro ys
    rw [stretch, Stretch.lengthAt]
    split
    · rfl
    · exact Stretch.length_whole_start started ys
  rw [Stages.whole_eq h.steady]
  change (f.outward.whole (Stretch.whole? f.stretch (f.inward.whole xs))).length = _
  rw [h.outward_eq, RateConverter.length_whole_start outward, middle, first,
    RateConverter.length_whole_start inward]
  rfl

theorem length_downmix (xs : List Frame) :
    (xs.flatMap Frame.downmix).length = (xs.map Frame.length).sum := by
  rw [List.length_flatMap]
  congr 2
  funext x
  exact List.length_map _

theorem channel_piece (f : Fitter) (o : Option Int) (n : Nat) (xs : List Float32) {j : Nat}
    (hj : j < (f.piece o n xs).stream.channels) :
    (f.piece o n xs).channel j = xs.map fun x => f.target.format.kind.ofSingle (.ofFloat x) := by
  rw [Frame.channel_eq_map _ hj]
  refine (List.map_map).trans ?_
  congr 1
  funext x
  exact Vector.getElem_replicate hj

theorem pts_piece_add {o : Int} {n : Nat} {xs ys : List Float32}
    (clock : f.timeBase = .perSample f.target.rate f.rate_ne)
    (room : (n + xs.length : Nat) ≤ Ticks.most) :
    (f.piece (some o) (n + xs.length) ys).pts =
      (f.piece (some o) n xs).pts.map (· + (xs.length : Int)) := by
  rw [pts_piece clock, pts_piece clock, Int.min_eq_left room, Int.min_eq_left (by omega),
    Nat.cast_add]
  exact congrArg some (Int.add_assoc o n xs.length).symm

/-- An utterance is fitted without a fault as long as no time stamp is too large. Each frame that
comes out is made for the target, has the same samples on all channels and starts where the samples
before it end, counted from the start of the utterance; on the clock of its own samples it starts
just where the frame before it ends. The whole is as long as rounding once at each stage tells. -/
theorem fit_timeline (started : start? source target timeBase speed = .ok f)
    (inward : f.inward.Delivers) (outward : f.outward.Delivers) {xs : List Frame}
    (accepts : ∀ x ∈ xs, x.stream.rate = source.rate ∧ x.stream.channels = source.channels) :
    ∃ (rate_ne : target.rate ≠ 0) (ys : List Frame),
      f.fit xs = (if ∀ y ∈ ys, y.Stamped then .ok ys else .error .overflow) ∧
      (∀ y ∈ ys, y.stream = target ∧ y.timeBase = timeBase ∧ 0 < y.length ∧
        ∀ i < y.stream.channels, ∀ j < y.stream.channels, y.channel i = y.channel j) ∧
      (∀ x ∈ xs.head?, ∀ t ∈ x.pts, ∀ before y after, ys = before ++ y :: after →
        let n : Nat := (before.map Frame.length).sum
        y.pts = some (x.timeBase.rescale t timeBase +
          (TimeBase.perSample target.rate rate_ne).rescale (min n Ticks.most) timeBase) ∧
        (timeBase = .perSample target.rate rate_ne → (n + y.length : Nat) ≤ Ticks.most →
          ∀ z ∈ after.head?, z.pts = y.pts.map (· + (y.length : Int)))) ∧
      (ys.map Frame.length).sum =
        RateConverter.lengthAt 48000 target.rate.toNat
          (Stretch.lengthAt speed
            (RateConverter.lengthAt source.rate.toNat 48000 (xs.map Frame.length).sum)) := by
  have fresh := fresh_of_start? started
  obtain rfl := fresh.source_eq
  obtain rfl := fresh.target_eq
  obtain rfl := fresh.timeBase_eq
  obtain ⟨ps, exact, samples, some, first, _⟩ := fresh.fit xs
  have fit := fit_eq accepts
  rw [exact] at fit
  refine ⟨f.rate_ne, f.pieces 0 ps, fit, ?_, ?_, ?_⟩
  · intro y mem
    obtain ⟨before, after, split⟩ := List.append_of_mem mem
    obtain ⟨p, known, rfl⟩ := exists_piece_of_split split
    refine ⟨rfl, rfl, ?_, ?_⟩
    · rw [length_piece]
      exact List.length_pos_iff.mpr (some p known)
    · intro i hi j hj
      rw [channel_piece _ _ _ _ hi, channel_piece _ _ _ _ hj]
  · intro x front t stamp before y after split n
    have origin := first x front t stamp
    obtain ⟨p, mem, rfl⟩ := exists_piece_of_split split
    rw [origin p mem, Nat.zero_add]
    refine ⟨rfl, ?_⟩
    intro clock room z next
    obtain ⟨rest, rfl⟩ : ∃ rest, after = z :: rest := by
      cases after <;> cases next
      exact ⟨_, rfl⟩
    rw [List.append_cons] at split
    obtain ⟨q, mem', rfl⟩ := exists_piece_of_split split
    rw [length_piece] at room ⊢
    rw [origin q mem', List.map_append, List.sum_append, List.map_singleton, List.sum_singleton,
      length_piece, Nat.zero_add]
    exact pts_piece_add clock room
  · rw [length_pieces, samples, fresh.length_whole inward outward, length_downmix]

theorem fit_timeline_ten_milliseconds :
    let speech := Frame.mono .f32 16000 (by decide) 80 (List.replicate 160 ⟨0⟩)
    let target : Stream := ⟨48000, 2, ⟨.s16, .interleaved⟩⟩
    ∃ f, start? speech.stream target (.perSample 48000 (by decide)) 1.25 = .ok f ∧
      f.inward.Delivers ∧ f.outward.Delivers ∧
      ∃ ys, f.fit [speech] = .ok ys ∧ (ys.map Frame.length).sum = 384 ∧
        ys.head?.bind Frame.pts = some 240 := by
  intro speech target
  obtain ⟨f, started⟩ : ∃ f, start? speech.stream target (.perSample 48000 (by decide)) 1.25 = .ok f :=
    ⟨_, @start?_eq speech.stream target _ 1.25 (by decide) (by decide) (by decide) (by decide)
      (by decide +kernel)⟩
  have fresh := fresh_of_start? started
  have inward : f.inward.Delivers := by
    obtain ⟨_, first⟩ := fresh.exists_inward
    replace first : f.inward = .start 16000 48000 (by decide) := first
    rw [first]
    refine RateConverter.delivers_of_le (RateConverter.balanced_start ..) (by decide) ?_
    intro l mem
    cases mem
    decide
  have outward : f.outward.Delivers := by
    rw [fresh.outward_eq]
    exact RateConverter.delivers_of_le (RateConverter.balanced_start ..) (by decide) nofun
  have accepts : ∀ x ∈ [speech],
      x.stream.rate = speech.stream.rate ∧ x.stream.channels = speech.stream.channels := by
    simp
  obtain ⟨_, ys, fit, _, starts, count⟩ := fit_timeline started inward outward accepts
  have length : (ys.map Frame.length).sum = 384 := count.trans (by decide +kernel)
  have moved : speech.timeBase.rescale 80 (.perSample 48000 (by decide)) = 240 := by decide
  have stamped : ∀ y ∈ ys, y.Stamped := by
    intro y mem t stamp
    obtain ⟨before, after, split⟩ := List.append_of_mem mem
    obtain ⟨start, _⟩ := starts speech rfl 80 rfl before y after split
    have early : (before.map Frame.length).sum ≤ 384 := by
      rw [← length, split, List.map_append, List.sum_append]
      exact Nat.le_add_right _ _
    rw [start] at stamp
    cases stamp
    rw [moved, Int.min_eq_left (by unfold Ticks.most; omega), TimeBase.rescale_self_of_mem _
      (by unfold Ticks.least; omega) (by unfold Ticks.most; omega)]
    unfold Ticks.Valid Ticks.least Ticks.most
    omega
  rw [if_pos stamped] at fit
  refine ⟨f, started, inward, outward, ys, fit, length, ?_⟩
  cases ys with
  | nil => cases length
  | cons y ys =>
    obtain ⟨start, _⟩ := starts speech rfl 80 rfl [] y ys rfl
    rw [moved, TimeBase.rescale_self] at start
    exact start

end Fitter

end Overdub
