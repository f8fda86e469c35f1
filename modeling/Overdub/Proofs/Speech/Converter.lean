import Mathlib.Tactic.Linarith
import Overdub.Speech.Rate.Converter

/-!
Rate conversion piece by piece. Input is gathered into chunks and these into blocks, so the output
does not depend on how the input was cut; it is counted in whole blocks, never ahead of the input,
and a flush fills it up to the expected length if silence brings out what is missing.
-/

namespace Overdub

section Push

namespace RateLine

variable {l : RateLine}

def await (l : RateLine) (more : List Float32) : RateLine := { l with pending := l.pending ++ more }

theorem push_eq (l : RateLine) (more : List Float32) : l.push more = (l.await more).run := rfl

theorem await_append (l : RateLine) (xs ys : List Float32) :
    l.await (xs ++ ys) = (l.await xs).await ys := by
  simp [await]

theorem run_await (l : RateLine) (more : List Float32) :
    (l.await more).run = (l.run.1 ++ (l.run.2.await more).run.1, (l.run.2.await more).run.2) := by
  fun_induction run l with
  | case1 l full next rest ih =>
    have still : chunk ≤ (l.await more).pending.length := by
      simp only [await, List.length_append]
      omega
    have head : (l.await more).pending.take chunk = l.pending.take chunk :=
      List.take_append_of_le_length full
    have tail : (l.await more).pending.drop chunk = l.pending.drop chunk ++ more :=
      List.drop_append_of_le_length full
    have feed : (l.await more).feed (l.pending.take chunk) =
        (next.1, { next.2 with pending := l.pending ++ more }) := rfl
    rw [run, if_pos still, head, tail, feed]
    dsimp only [await] at ih ⊢
    rw [ih, List.append_assoc]
  | case2 => rfl

theorem push_append (l : RateLine) (xs ys : List Float32) :
    l.push (xs ++ ys) = ((l.push xs).1 ++ ((l.push xs).2.push ys).1, ((l.push xs).2.push ys).2) := by
  rw [push_eq, await_append]
  exact run_await _ ys

end RateLine

theorem RateConverter.push_append (c : RateConverter) (xs ys : List Float32) :
    c.push (xs ++ ys) = ((c.push xs).1 ++ ((c.push xs).2.push ys).1, ((c.push xs).2.push ys).2) := by
  obtain ⟨source, target, line, fed, produced⟩ := c
  cases line with
  | none => simp [RateConverter.push, Nat.add_assoc]
  | some l => simp [RateConverter.push, l.push_append, Nat.add_assoc]

end Push

section Count

namespace BlockSize

theorem ofRates_exact (source target : Nat) (h : 0 < source) :
    (ofRates source target h).input * target = (ofRates source target h).output * source := by
  have left := Nat.div_mul_cancel (Nat.gcd_dvd_left source target)
  have right := Nat.div_mul_cancel (Nat.gcd_dvd_right source target)
  unfold ofRates
  dsimp only
  generalize source / source.gcd target = s at left
  generalize target / source.gcd target = t at right
  generalize source.gcd target = g at left right
  rw [← left, ← right, Nat.mul_assoc, Nat.mul_assoc, Nat.mul_left_comm s]

end BlockSize

theorem Blocks.exists_run (b : Blocks) : ∃ k,
    k * b.size.input + b.run.2.saved.length = b.saved.length ∧
    b.run.1.length = k * b.size.output ∧ b.run.2.saved.length < b.size.input ∧
    b.run.2.size = b.size := by
  fun_induction run b with
  | case1 b full next rest ih =>
    obtain ⟨k, saved, out, few, size⟩ := ih
    refine ⟨k + 1, ?_, ?_, few, size⟩
    · replace saved : k * b.size.input + rest.2.saved.length = (b.saved.drop b.size.input).length :=
        saved
      rw [List.length_drop] at saved
      rw [Nat.succ_mul]
      dsimp only
      omega
    · rw [List.length_append, out, Nat.succ_mul, Nat.add_comm]
      congr 1
      simp [next, convert]
  | case2 b few => exact ⟨0, by simp, by simp, Nat.lt_of_not_le few, rfl⟩

namespace RateLine

/-- `taken` samples went into blocks and `given` came out: all of whole blocks, less the delay. -/
structure Counted (l : RateLine) (taken given : Nat) : Prop where
  saved_lt : l.blocks.saved.length < l.blocks.size.input
  exists_blocks : ∃ k, k * l.blocks.size.input + l.blocks.saved.length = taken ∧
    given + l.blocks.size.output / 2 = k * l.blocks.size.output + l.skip
  skip_le : l.skip ≤ l.blocks.size.output / 2
  skipped : l.skip = 0 ∨ given = 0

variable {l : RateLine} {taken given : Nat}

theorem counted_start (size : BlockSize) : (start size).Counted 0 0 where
  saved_lt := size.input_pos
  exists_blocks := ⟨0, by simp [start, Blocks.start], by simp [start, Blocks.start]⟩
  skip_le := Nat.le_refl _
  skipped := .inr rfl

theorem Counted.feed (h : l.Counted taken given) (xs : List Float32) :
    (l.feed xs).2.Counted (taken + xs.length) (given + (l.feed xs).1.length) := by
  obtain ⟨k, saved, out⟩ := h.exists_blocks
  obtain ⟨more, saved', out', few, size⟩ :=
    Blocks.exists_run { l.blocks with saved := l.blocks.saved ++ xs }
  have skip := h.skip_le
  have skipped := h.skipped
  unfold RateLine.feed Blocks.feed
  generalize Blocks.run { l.blocks with saved := l.blocks.saved ++ xs } = r at *
  obtain ⟨ys, b⟩ := r
  dsimp only at saved' out' few size ⊢
  rw [List.length_append] at saved'
  refine ⟨size ▸ few, ⟨k + more, ?_, ?_⟩, ?_, ?_⟩
  · dsimp only
    rw [size, Nat.add_mul]
    omega
  · dsimp only
    rw [size, Nat.add_mul, List.length_drop]
    omega
  · dsimp only
    rw [size]
    omega
  · rw [List.length_drop]
    dsimp only
    omega

theorem size_feed (l : RateLine) (xs : List Float32) :
    (l.feed xs).2.blocks.size = l.blocks.size := by
  obtain ⟨_, _, _, _, size⟩ := Blocks.exists_run { l.blocks with saved := l.blocks.saved ++ xs }
  exact size

theorem Counted.withPending (h : l.Counted taken given) (pending : List Float32) :
    { l with pending }.Counted taken given :=
  ⟨h.saved_lt, h.exists_blocks, h.skip_le, h.skipped⟩

theorem Counted.run (h : l.Counted taken given) : ∃ n,
    l.run.2.Counted (taken + n * chunk) (given + l.run.1.length) ∧
    n * chunk + l.run.2.pending.length = l.pending.length ∧ l.run.2.pending.length < chunk ∧
    l.run.2.blocks.size = l.blocks.size := by
  revert taken given
  fun_induction RateLine.run l
  case case1 l full next rest ih =>
    intro taken given h
    have fed := h.feed (l.pending.take chunk)
    rw [List.length_take_of_le full] at fed
    obtain ⟨n, counted, same, short, size⟩ := ih (fed.withPending (l.pending.drop chunk))
    refine ⟨n + 1, ?_, ?_, short, size.trans (l.size_feed _)⟩
    · rw [List.length_append, ← Nat.add_assoc, Nat.succ_mul, Nat.add_comm (n * chunk),
        ← Nat.add_assoc]
      exact counted
    · replace same : n * chunk + rest.2.pending.length = l.pending.length - chunk :=
        same.trans (List.length_drop ..)
      rw [Nat.succ_mul]
      dsimp only
      omega
  case case2 l short =>
    intro taken given h
    exact ⟨0, by rwa [Nat.zero_mul], by rw [Nat.zero_mul, Nat.zero_add], Nat.lt_of_not_le short, rfl⟩

/-- Blocks of an exact size never give more than their input is worth. -/
theorem Counted.given_mul_le (h : l.Counted taken given) {source target : Nat}
    (exact : l.blocks.size.input * target = l.blocks.size.output * source) :
    given * source ≤ taken * target := by
  obtain ⟨k, saved, out⟩ := h.exists_blocks
  have skip := h.skip_le
  have few : given ≤ k * l.blocks.size.output := by omega
  have many : k * l.blocks.size.input ≤ taken := by omega
  calc given * source ≤ k * l.blocks.size.output * source := Nat.mul_le_mul_right _ few
    _ = k * l.blocks.size.input * target := by rw [Nat.mul_assoc, ← exact, Nat.mul_assoc]
    _ ≤ taken * target := Nat.mul_le_mul_right _ many

theorem Counted.drain (h : l.Counted taken given) (n wanted : Nat) : ∃ m ≤ n,
    (drain n wanted l).2.Counted (taken + m * chunk) (given + (drain n wanted l).1.length) ∧
    (drain n wanted l).2.blocks.size = l.blocks.size ∧
    (wanted ≤ (drain n wanted l).1.length ∨ m = n) := by
  induction n generalizing l taken given wanted with
  | zero => exact ⟨0, Nat.le_refl _, by rwa [Nat.zero_mul], rfl, .inr rfl⟩
  | succ n ih =>
    cases wanted with
    | zero => exact ⟨0, Nat.zero_le _, by rwa [Nat.zero_mul], rfl, .inl (Nat.zero_le _)⟩
    | succ wanted =>
      have fed := h.feed (List.replicate chunk 0)
      have size := l.size_feed (List.replicate chunk 0)
      rw [List.length_replicate] at fed
      simp only [RateLine.drain, List.length_append]
      generalize l.feed (List.replicate chunk 0) = next at fed size
      obtain ⟨m, le, counted, same, done⟩ := ih fed (wanted + 1 - next.1.length)
      refine ⟨m + 1, Nat.succ_le_succ le, ?_, same.trans size, by omega⟩
      rw [Nat.succ_mul, Nat.add_comm (m * chunk), ← Nat.add_assoc, ← Nat.add_assoc]
      exact counted

/-- Once a line has had the silence of a whole flush, blocks of this size have come far enough. -/
theorem Counted.covers (h : l.Counted taken given) {source target : Nat} (pos : 0 < source)
    (pos' : 0 < target)
    (exact : l.blocks.size.input * target = l.blocks.size.output * source)
    (small : l.blocks.size.input ≤ 2 ^ 15) {fed : Nat} (more : fed + drainLimit * chunk ≤ taken) :
    (fed * target + source / 2) / source ≤ given := by
  obtain ⟨k, saved, out⟩ := h.exists_blocks
  have few := h.saved_lt
  generalize l.blocks.size.input = m at *
  generalize l.blocks.size.output = n at *
  -- A block lasts `m * target` ticks of either side.
  have blocks : (k + 1) * (m * target) ≥ (fed + drainLimit * chunk + 1) * target := by
    rw [← Nat.mul_assoc]
    apply Nat.mul_le_mul_right
    rw [Nat.succ_mul]
    omega
  have given' : 2 * (k * (m * target)) ≤ 2 * (given * source) + m * target := by
    have : 2 * (k * n) ≤ 2 * given + n := by omega
    rw [exact]
    nlinarith [Nat.mul_le_mul_right source this]
  have last : source ≤ m * target := by
    have some : 0 < n := by
      apply Nat.pos_of_ne_zero
      intro zero
      rw [zero, Nat.zero_mul] at exact
      exact Nat.ne_of_gt (Nat.mul_pos (by omega) pos') exact
    rw [exact]
    exact Nat.le_mul_of_pos_left _ some
  have size : m * target ≤ 2 ^ 15 * target := Nat.mul_le_mul_right _ small
  apply Nat.le_of_lt_succ
  rw [Nat.div_lt_iff_lt_mul pos]
  have half := Nat.div_mul_le_self source 2
  unfold drainLimit chunk at blocks
  nlinarith

def fill (l : RateLine) : List Float32 × RateLine :=
  if l.pending.isEmpty then ([], l)
  else
    RateLine.feed { l with pending := [] }
      (l.pending ++ List.replicate (chunk - l.pending.length) 0)

theorem flush_eq (l : RateLine) (wanted : Nat) : l.flush wanted =
    (l.fill.1 ++ (drain drainLimit (wanted - l.fill.1.length) l.fill.2).1,
      (drain drainLimit (wanted - l.fill.1.length) l.fill.2).2) := rfl

def filled (l : RateLine) : Nat := if l.pending.isEmpty then 0 else max l.pending.length chunk

theorem length_pending_le_filled (l : RateLine) : l.pending.length ≤ l.filled := by
  unfold filled
  split
  · next empty => rw [List.isEmpty_iff.mp empty, List.length_nil]
  · exact Nat.le_max_left ..

theorem Counted.fill (h : l.Counted taken given) :
    l.fill.2.Counted (taken + l.filled) (given + l.fill.1.length) ∧
    l.fill.2.blocks.size = l.blocks.size := by
  unfold RateLine.fill filled
  split
  · exact ⟨h, rfl⟩
  · have fed := (h.withPending []).feed
      (l.pending ++ List.replicate (chunk - l.pending.length) 0)
    rw [List.length_append, List.length_replicate, add_tsub_eq_max] at fed
    exact ⟨fed, size_feed _ _⟩

theorem Counted.flush (h : l.Counted taken given) {source target : Nat} (pos : 0 < source)
    (pos' : 0 < target)
    (exact : l.blocks.size.input * target = l.blocks.size.output * source)
    (small : l.blocks.size.input ≤ 2 ^ 15) :
    let wanted := ((taken + l.pending.length) * target + source / 2) / source - given
    wanted ≤ (l.flush wanted).1.length := by
  intro wanted
  obtain ⟨filled, size⟩ := h.fill
  rw [flush_eq, List.length_append]
  obtain ⟨n, -, drained, same, enough | all⟩ := filled.drain drainLimit (wanted - l.fill.1.length)
  · omega
  · rw [← size, ← same] at exact small
    have more := Nat.add_le_add_left l.length_pending_le_filled taken
    have := drained.covers pos pos' exact small (Nat.add_le_add more (Nat.le_of_eq (by rw [all])))
    omega

end RateLine

namespace RateConverter

theorem toNat_pos {rate : UInt32} (h : rate ≠ 0) : 0 < rate.toNat :=
  Nat.pos_of_ne_zero fun e => h (UInt32.toNat_inj.mp e)

def lengthAt (source target n : Nat) : Nat := (n * target + source / 2) / source

theorem lengthAt_self {rate : Nat} (pos : 0 < rate) (n : Nat) : lengthAt rate rate n = n := by
  rw [lengthAt, Nat.add_comm, Nat.add_mul_div_right _ _ pos,
    Nat.div_eq_of_lt (Nat.div_lt_self pos (Nat.lt_succ_self 1)), Nat.zero_add]

/-- What holds of a converter while it streams: every sample is accounted for. -/
structure Balanced (c : RateConverter) : Prop where
  source_pos : 0 < c.source.toNat
  bypass : c.line = none → c.source = c.target ∧ c.produced = c.fed
  line : ∀ l ∈ c.line,
    l.blocks.size.input * c.target.toNat = l.blocks.size.output * c.source.toNat ∧
    ∃ taken, l.Counted taken c.produced ∧ taken + l.pending.length = c.fed

variable {c : RateConverter}

theorem balanced_start (source target : UInt32) (h : source ≠ 0) :
    (start source target h).Balanced := by
  have pos := toNat_pos h
  unfold start
  dsimp only
  split
  · next same => exact ⟨pos, fun _ => ⟨same, rfl⟩, nofun⟩
  · refine ⟨pos, nofun, ?_⟩
    intro l mem
    cases mem
    exact ⟨BlockSize.ofRates_exact _ _ pos, 0, RateLine.counted_start _, rfl⟩

theorem Balanced.push (h : c.Balanced) (xs : List Float32) : (c.push xs).2.Balanced := by
  obtain ⟨source, target, _ | l, fed, produced⟩ := c
  · obtain ⟨same, count⟩ := h.bypass rfl
    refine ⟨h.source_pos, fun _ => ⟨same, ?_⟩, nofun⟩
    exact congrArg (· + xs.length) count
  · obtain ⟨exact', taken, counted, sum⟩ := h.line l rfl
    obtain ⟨n, counted', sum', -, size⟩ := (counted.withPending (l.pending ++ xs)).run
    refine ⟨h.source_pos, nofun, ?_⟩
    intro l' mem
    cases mem
    refine ⟨?_, _, counted', ?_⟩
    · rw [size]
      exact exact'
    · rw [Nat.add_assoc]
      refine (congrArg (taken + ·) sum').trans ?_
      rw [List.length_append, ← Nat.add_assoc]
      exact congrArg (· + xs.length) sum

@[simp] theorem rates_push (c : RateConverter) (xs : List Float32) :
    (c.push xs).2.source = c.source ∧ (c.push xs).2.target = c.target ∧
      (c.push xs).2.fed = c.fed + xs.length ∧
      (c.push xs).2.produced = c.produced + (c.push xs).1.length := by
  obtain ⟨source, target, _ | l, fed, produced⟩ := c <;> exact ⟨rfl, rfl, rfl, rfl⟩

theorem Balanced.produced_le (h : c.Balanced) : c.produced ≤ c.expected := by
  have pos := h.source_pos
  unfold expected
  rw [Nat.le_div_iff_mul_le pos]
  suffices c.produced * c.source.toNat ≤ c.fed * c.target.toNat by omega
  cases e : c.line with
  | none =>
    obtain ⟨same, count⟩ := h.bypass e
    rw [same, count]
  | some l =>
    obtain ⟨exact', taken, counted, sum⟩ := h.line l e
    apply Nat.le_trans (counted.given_mul_le exact')
    exact Nat.mul_le_mul_right _ (by omega)

theorem Balanced.bypass_expected (h : c.Balanced) (e : c.line = none) : c.expected = c.produced := by
  obtain ⟨same, count⟩ := h.bypass e
  have pos := h.source_pos
  rw [expected, ← same, count]
  exact lengthAt_self pos c.fed

/-- Silence brings out what is missing of the output, whatever went in. -/
def Delivers (c : RateConverter) : Prop :=
  ∀ xs, let d := (c.push xs).2
    ∀ l ∈ d.line, d.expected - d.produced ≤ (l.flush (d.expected - d.produced)).1.length

theorem length_flush (h : c.Balanced)
    (delivers : ∀ l ∈ c.line,
      c.expected - c.produced ≤ (l.flush (c.expected - c.produced)).1.length) :
    c.flush.1.length = c.expected - c.produced := by
  unfold RateConverter.flush
  split
  · next e =>
    rw [h.bypass_expected e, Nat.sub_self]
    rfl
  · next l e =>
    dsimp only
    rw [List.length_take, Nat.min_eq_left (delivers l e)]

theorem delivers_of_le (h : c.Balanced) (pos : 0 < c.target.toNat)
    (small : ∀ l ∈ c.line, l.blocks.size.input ≤ 2 ^ 15) : c.Delivers := by
  intro xs d l mem
  obtain ⟨source, target, line, fed, produced⟩ := c
  cases line with
  | none => cases mem
  | some l₀ =>
    obtain ⟨exact', taken, counted, sum⟩ := h.line l₀ rfl
    have small := small l₀ rfl
    obtain ⟨n, counted', sum', -, size⟩ := (counted.withPending (l₀.pending ++ xs)).run
    cases mem
    rw [← size] at exact' small
    have flush := counted'.flush h.source_pos pos exact' small
    have fed' := congrArg (· + xs.length) sum
    dsimp only at fed'
    rw [Nat.add_assoc, sum', List.length_append, ← Nat.add_assoc, fed'] at flush
    exact flush

theorem delivers_start {source target : UInt32} (h : source ≠ 0) (pos : 0 < target.toNat)
    (small : ∀ hs, (BlockSize.ofRates source.toNat target.toNat hs).input ≤ 2 ^ 15) :
    (start source target h).Delivers := by
  refine delivers_of_le (balanced_start source target h) pos ?_
  intro l mem
  unfold start at mem
  dsimp only at mem
  split at mem <;> cases mem
  exact small (toNat_pos h)

theorem length_push_flush (h : c.Balanced) (delivers : c.Delivers) (xs : List Float32) :
    c.produced + ((c.push xs).1 ++ (c.push xs).2.flush.1).length =
      ((c.fed + xs.length) * c.target.toNat + c.source.toNat / 2) / c.source.toNat := by
  have balanced := h.push xs
  have most := balanced.produced_le
  obtain ⟨source, target, fed, produced⟩ := c.rates_push xs
  have whole : (c.push xs).2.expected =
      ((c.fed + xs.length) * c.target.toNat + c.source.toNat / 2) / c.source.toNat := by
    rw [expected, source, target, fed]
  rw [List.length_append, length_flush balanced (delivers xs), ← whole]
  omega

end RateConverter

end Count

end Overdub
