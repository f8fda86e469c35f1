import Overdub.Proofs.Speech.Converter

/-!
How long converted speech becomes. Output leaves by whole blocks, less the delay of the filter, and
a flush has only so much silence to push the last of it out. It comes to its full length unless a
block is longer than that.
-/

namespace Overdub

namespace BlockSize

def released (s : BlockSize) (taken : Nat) : Nat := taken / s.input * s.output - s.output / 2

theorem released_mono (s : BlockSize) {m n : Nat} (h : m ≤ n) : s.released m ≤ s.released n :=
  Nat.sub_le_sub_right (Nat.mul_le_mul_right _ (Nat.div_le_div_right h)) _

end BlockSize

namespace RateLine

variable {l : RateLine} {taken given : Nat}

/-- The input of a line that was fed `fed` samples, once a flush has spent all its silence. -/
def supply (fed : Nat) : Nat := ((fed + (chunk - 1)) / chunk + drainLimit) * chunk

theorem Counted.given_eq (h : l.Counted taken given) : given = l.blocks.size.released taken := by
  obtain ⟨k, saved, out⟩ := h.exists_blocks
  have few := h.saved_lt
  have skipped := h.skipped
  have blocks : taken / l.blocks.size.input = k := by
    rw [← saved, Nat.add_comm, Nat.add_mul_div_right _ _ l.blocks.size.input_pos,
      Nat.div_eq_of_lt few, Nat.zero_add]
  rw [BlockSize.released, blocks]
  omega

theorem Counted.min_length_flush (h : l.Counted taken given) (wanted : Nat) :
    min wanted (l.flush wanted).1.length =
      min wanted (l.blocks.size.released (taken + l.filled + drainLimit * chunk) - given) := by
  obtain ⟨filled, size⟩ := h.fill
  obtain ⟨n, le, drained, same, done⟩ := filled.drain drainLimit (wanted - l.fill.1.length)
  have out := drained.given_eq
  rw [same, size] at out
  rw [flush_eq, List.length_append]
  rcases done with enough | all
  · have most := l.blocks.size.released_mono
      (Nat.add_le_add_left (Nat.mul_le_mul_right chunk le) (taken + l.filled))
    omega
  · rw [all] at out
    omega

theorem filled_of_lt (short : l.pending.length < chunk) :
    l.filled = (l.pending.length + (chunk - 1)) / chunk * chunk := by
  unfold filled
  split
  · next empty =>
    rw [List.isEmpty_iff.mp empty]
    rfl
  · next some =>
    have pos := List.length_pos_iff.mpr fun empty => some (List.isEmpty_iff.mpr empty)
    have one : (l.pending.length + (chunk - 1)) / chunk = 1 :=
      Nat.div_eq_of_lt_le (by omega) (by omega)
    rw [one, Nat.one_mul, Nat.max_eq_right (Nat.le_of_lt short)]

theorem counted_push_start (size : BlockSize) (xs : List Float32) :
    ((start size).push xs).2.Counted (xs.length / chunk * chunk) ((start size).push xs).1.length ∧
    ((start size).push xs).2.pending.length = xs.length % chunk ∧
    ((start size).push xs).2.blocks.size = size := by
  obtain ⟨n, counted, sum, short, same⟩ := ((counted_start size).withPending xs).run
  rw [Nat.zero_add, Nat.zero_add] at counted
  have chunks : xs.length / chunk = n := by
    rw [← show _ = xs.length from sum, Nat.add_comm, Nat.add_mul_div_right _ _ (by decide),
      Nat.div_eq_of_lt short, Nat.zero_add]
  refine ⟨chunks.symm ▸ counted, ?_, same⟩
  rw [← show _ = xs.length from sum, Nat.add_comm, Nat.add_mul_mod_self_right, Nat.mod_eq_of_lt short]
  rfl

theorem push_nil_start (size : BlockSize) : (start size).push [] = ([], start size) := by
  rw [push, run]
  exact if_neg (show ¬ chunk ≤ 0 by decide)

theorem supply_eq (fed : Nat) : fed / chunk * chunk +
    (fed % chunk + (chunk - 1)) / chunk * chunk + drainLimit * chunk = supply fed := by
  have whole : (fed + (chunk - 1)) / chunk = fed / chunk + (fed % chunk + (chunk - 1)) / chunk := by
    conv_lhs => rw [← Nat.div_add_mod fed chunk]
    rw [Nat.add_assoc, Nat.mul_add_div (by decide)]
  rw [supply, whole, Nat.add_mul, Nat.add_mul]

end RateLine

namespace RateConverter

def pushAll (c : RateConverter) : List (List Float32) → List Float32 × RateConverter
  | [] => ([], c)
  | xs :: xss =>
    let next := c.push xs
    let rest := pushAll next.2 xss
    (next.1 ++ rest.1, rest.2)

theorem pushAll_eq {c : RateConverter} (still : c.push [] = ([], c)) (xss : List (List Float32)) :
    c.pushAll xss = c.push xss.flatten := by
  induction xss generalizing c with
  | nil => exact still.symm
  | cons xs xss ih =>
    have twice := c.push_append xs []
    rw [List.append_nil] at twice
    have out := List.append_right_eq_self.mp (congrArg Prod.fst twice).symm
    have same := (congrArg Prod.snd twice).symm
    rw [pushAll, ih (Prod.ext out same), List.flatten_cons, push_append]

section Between

variable {source target : UInt32}

def blockSize (source target : UInt32) (h : source ≠ 0) : BlockSize :=
  .ofRates source.toNat target.toNat (toNat_pos h)

theorem start_of_ne (h : source ≠ 0) (other : source ≠ target) :
    start source target h = { source, target, line := some (.start (blockSize source target h)) } := by
  unfold start
  rw [if_neg other]
  rfl

theorem start_of_eq (h : source ≠ 0) (same : source = target) :
    start source target h = { source, target, line := none } := by
  unfold start
  rw [if_pos same]

theorem push_start (h : source ≠ 0) (other : source ≠ target) (xs : List Float32) :
    (start source target h).push xs =
      let next := (RateLine.start (blockSize source target h)).push xs
      (next.1, ⟨source, target, some next.2, xs.length, next.1.length⟩) := by
  rw [start_of_ne h other]
  simp only [push, Nat.zero_add]

theorem push_nil_start (h : source ≠ 0) :
    (start source target h).push [] = ([], start source target h) := by
  by_cases same : source = target
  · rw [start_of_eq h same]
    rfl
  · rw [push_start h same, RateLine.push_nil_start, start_of_ne h same]
    rfl

theorem length_pushAll_flush (h : source ≠ 0) (other : source ≠ target)
    (xss : List (List Float32)) :
    let d := (start source target h).pushAll xss
    (d.1 ++ d.2.flush.1).length =
      min (lengthAt source.toNat target.toNat xss.flatten.length)
        ((blockSize source target h).released (RateLine.supply xss.flatten.length)) := by
  have most := ((balanced_start source target h).push xss.flatten).produced_le
  rw [pushAll_eq (push_nil_start h)]
  generalize xss.flatten = xs at most ⊢
  rw [push_start h other] at most ⊢
  obtain ⟨counted, pending, size⟩ := RateLine.counted_push_start (blockSize source target h) xs
  generalize RateLine.push _ xs = next at most counted pending size ⊢
  have out := counted.given_eq
  have flushed := counted.min_length_flush (lengthAt source.toNat target.toNat xs.length - next.1.length)
  rw [size] at out flushed
  rw [RateLine.filled_of_lt (pending ▸ Nat.mod_lt _ (by decide)), pending, RateLine.supply_eq] at flushed
  have more : xs.length / RateLine.chunk * RateLine.chunk ≤ RateLine.supply xs.length := by
    rw [← RateLine.supply_eq, Nat.add_assoc]
    exact Nat.le_add_right ..
  have more := (blockSize source target h).released_mono more
  replace most : next.1.length ≤ lengthAt source.toNat target.toNat xs.length := most
  dsimp only [flush]
  rw [List.length_append, List.length_take]
  refine (congrArg (next.1.length + ·) flushed).trans ?_
  omega

theorem length_pushAll_flush_self (h : source ≠ 0) (same : source = target)
    (xss : List (List Float32)) :
    let d := (start source target h).pushAll xss
    (d.1 ++ d.2.flush.1).length = lengthAt source.toNat target.toNat xss.flatten.length := by
  have pos := toNat_pos h
  rw [pushAll_eq (push_nil_start h), start_of_eq h same, ← same, lengthAt_self pos]
  exact congrArg List.length (List.append_nil _)

theorem length_pushAll_le (h : source ≠ 0) (xss : List (List Float32)) :
    ((start source target h).pushAll xss).1.length ≤
      lengthAt source.toNat target.toNat xss.flatten.length := by
  have most := ((balanced_start source target h).push xss.flatten).produced_le
  obtain ⟨first, last, fed, produced⟩ := (start source target h).rates_push xss.flatten
  rw [expected, first, last, fed, produced] at most
  rw [pushAll_eq (push_nil_start h)]
  simp only [start, Nat.zero_add] at most
  exact most

theorem two_mul_lengthAt_le (source target n : Nat) :
    2 * (lengthAt source target n * source) ≤ 2 * (n * target) + source := by
  have := Nat.div_mul_le_self (n * target + source / 2) source
  rw [lengthAt]
  omega

theorem le_two_mul_lengthAt {source : Nat} (pos : 0 < source) (target n : Nat) :
    2 * (n * target) ≤ 2 * (lengthAt source target n * source) + source := by
  have := Nat.lt_div_mul_add (a := n * target + source / 2) pos
  rw [lengthAt]
  omega

/-- Output never gets ahead of the input. A flush brings it to its full length, the whole number
nearest to what the rates tell, exactly when the silence of a flush brings that much out of whole
blocks. For blocks of at most `2 ^ 15` samples it always does. -/
theorem converts_in_full_iff (hs : source ≠ 0) (ht : target ≠ 0) (xss : List (List Float32)) :
    ∃ c, start? source target = .ok c ∧
      let fed := xss.flatten.length
      let length := lengthAt source.toNat target.toNat fed
      let d := c.pushAll xss
      let all := d.1 ++ d.2.flush.1
      (2 * (length * source.toNat) ≤ 2 * (fed * target.toNat) + source.toNat ∧
        2 * (fed * target.toNat) ≤ 2 * (length * source.toNat) + source.toNat) ∧
      d.1.length ≤ length ∧
      (all.length = length ↔
        source = target ∨ length ≤ (blockSize source target hs).released (RateLine.supply fed)) ∧
      ((blockSize source target hs).input ≤ 2 ^ 15 → all.length = length) := by
  have pos := toNat_pos hs
  have pos' := toNat_pos ht
  have started : start? source target = .ok (start source target hs) := by
    rw [start?, dif_neg hs, if_neg ht]
  refine ⟨_, started, ⟨two_mul_lengthAt_le .., le_two_mul_lengthAt pos ..⟩, ?_, ?_, ?_⟩
  · exact length_pushAll_le hs xss
  · by_cases same : source = target
    · exact iff_of_true (length_pushAll_flush_self hs same xss) (.inl same)
    · rw [length_pushAll_flush hs same xss, or_iff_right same]
      exact min_eq_left_iff
  · intro small
    have count := length_push_flush (balanced_start source target hs)
      (delivers_start hs pos' fun _ => small) xss.flatten
    rw [← pushAll_eq (push_nil_start hs)] at count
    simp only [start, Nat.zero_add] at count
    exact count

theorem converts_in_full_iff_hundred :
    ∃ c, start? 24000 48000 = .ok c ∧
      let d := c.pushAll [.replicate 60 0, [], .replicate 40 0]
      (d.1 ++ d.2.flush.1).length = 200 := by
  obtain ⟨c, started, -, -, -, full⟩ := @converts_in_full_iff 24000 48000
    (by decide) (by decide) [.replicate 60 0, [], .replicate 40 0]
  exact ⟨c, started, (full (by decide)).trans (by decide)⟩

/-- Blocks of 98415 samples are longer than the silence of a flush: of a hundred samples none comes
out, though they are worth 67. -/
theorem converts_nothing_at_98415 :
    ∃ c, start? 98415 65536 = .ok c ∧
      let d := c.pushAll [.replicate 100 0]
      (d.1 ++ d.2.flush.1).length = 0 ∧ d.2.expected = 67 := by
  refine ⟨start 98415 65536 (by decide), rfl, ?_, ?_⟩
  · exact (length_pushAll_flush (by decide) (by decide) _).trans (by decide)
  · rw [pushAll_eq (push_nil_start _), push_start (by decide) (by decide)]
    rfl

end Between

end RateConverter

end Overdub
