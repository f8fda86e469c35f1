import Overdub.Speech.Fitter

/-!
Stages that took in nothing. They hold nothing back, so flushing them gives nothing; an utterance
without frames makes no speech.
-/

namespace Overdub

theorem Pace.output_zero (p : Pace) : p.output 0 = 0 := by
  have zero : (Dyadic.ofNat 0).div p.speed = ⟨0, 0⟩ := by
    rw [Dyadic.ofNat, Dyadic.ofRatio, if_pos rfl, Dyadic.div, Dyadic.ofRatio, if_pos (Nat.zero_mul _)]
  rw [output, zero]
  decide

namespace Stretch

structure Idle (s : Stretch) : Prop where
  input : s.input = []
  base : s.base = 0
  fed : s.fed = 0

theorem Idle.expected {s : Stretch} (h : s.Idle) : s.expected = 0 := by
  rw [Stretch.expected, h.fed, Pace.output_zero]

theorem Idle.push {s : Stretch} (h : s.Idle) : s.push [] = ([], s) := by
  have same : { s with input := s.input ++ [], fed := s.fed + 0 } = s := by
    rw [List.append_nil, Nat.add_zero]
  change run { s with input := s.input ++ [], fed := s.fed + 0 } = _
  rw [same, run, if_neg]
  rintro ⟨_, room⟩
  rw [h.expected, Pace.hop] at room
  omega

theorem Idle.flush {s : Stretch} (h : s.Idle) : s.flush.1 = [] := by
  have done : s.exhaust = ([], s) := by
    rw [exhaust, h.expected, if_neg (Nat.not_lt_zero _)]
  rw [Stretch.flush, done]
  exact List.take_nil

theorem start?_idle {speed : Float} {s : Stretch} (h : start? speed = .ok s) : s.Idle := by
  unfold start? at h
  split at h <;> cases h
  exact ⟨rfl, rfl, rfl⟩

end Stretch

namespace RateConverter

structure Idle (c : RateConverter) : Prop where
  fed : c.fed = 0
  pending : ∀ l ∈ c.line, l.pending = []

theorem start_idle (source target : UInt32) (h : source ≠ 0) : (start source target h).Idle where
  fed := rfl
  pending := by
    intro l mem
    unfold start at mem
    dsimp only at mem
    split at mem <;> cases mem
    rfl

theorem Idle.push {c : RateConverter} (h : c.Idle) : c.push [] = ([], c) := by
  obtain ⟨source, target, _ | l, fed, produced⟩ := c
  · rfl
  · have empty : l.pending = [] := h.pending l rfl
    have still : l.push [] = ([], l) := by
      have same : { l with pending := l.pending ++ [] } = l := by rw [List.append_nil]
      rw [RateLine.push, same, RateLine.run, if_neg]
      rw [empty, RateLine.chunk]
      decide
    rw [RateConverter.push]
    dsimp only
    rw [still]
    rfl

theorem Idle.flush {c : RateConverter} (h : c.Idle) : c.flush.1 = [] := by
  have none : c.expected = 0 := by
    rw [expected, h.fed, Nat.zero_mul, Nat.zero_add]
    rcases Nat.eq_zero_or_pos c.source.toNat with zero | pos
    · rw [zero]
    · exact Nat.div_eq_of_lt (Nat.div_lt_self pos (Nat.lt_succ_self 1))
  unfold RateConverter.flush
  split
  · rfl
  · dsimp only
    rw [none, Nat.zero_sub]
    exact List.take_zero

end RateConverter

namespace Fitter

structure Fresh (f : Fitter) (source target : Stream) (timeBase : TimeBase) (speed : Float) :
    Prop where
  source_eq : f.source = source
  channels_pos : 0 < source.channels
  target_eq : f.target = target
  timeBase_eq : f.timeBase = timeBase
  origin_eq : f.origin = none
  emitted_eq : f.emitted = 0
  exists_inward : ∃ h, f.inward = .start source.rate workingRate h
  exists_stretch : ∃ s, Stretch.start? speed = .ok s ∧
    f.stretch = if speed == 1 then none else some s
  outward_eq : f.outward = .start workingRate target.rate (by decide)

theorem fresh_of_start? {source target : Stream} {timeBase : TimeBase} {speed : Float} {f : Fitter}
    (h : start? source target timeBase speed = .ok f) : f.Fresh source target timeBase speed := by
  unfold start? at h
  split at h
  · cases h
  next rate_ne =>
  split at h
  · cases h
  next channels_ne =>
  split at h
  · cases h
  split at h
  · cases h
  cases hs : Stretch.start? speed with
  | error e =>
    rw [hs] at h
    cases h
  | ok s =>
    rw [hs] at h
    cases h
    exact ⟨rfl, Nat.pos_of_ne_zero channels_ne, rfl, rfl, rfl, rfl, ⟨rate_ne, rfl⟩, ⟨s, hs, rfl⟩, rfl⟩

theorem start?_eq {source target : Stream} (timeBase : TimeBase) {speed : Float}
    (sourceRate : source.rate ≠ 0) (sourceChannels : source.channels ≠ 0)
    (targetRate : target.rate ≠ 0) (targetChannels : target.channels ≠ 0)
    (usable : Speed.usable speed) :
    start? source target timeBase speed = .ok {
      source, target, timeBase
      inward := .start source.rate workingRate sourceRate
      stretch := if speed == 1 then none else some { pace := ⟨.ofFloat speed⟩ }
      outward := .start workingRate target.rate (by decide)
      rate_ne := targetRate
      channels_pos := Nat.pos_of_ne_zero targetChannels } := by
  unfold start?
  rw [dif_neg sourceRate, if_neg sourceChannels, dif_neg targetRate, dif_neg targetChannels,
    Stretch.start?, if_pos usable]
  rfl

structure Idle (f : Fitter) : Prop where
  inward : f.inward.Idle
  stretch : ∀ s ∈ f.stretch, s.Idle
  outward : f.outward.Idle

theorem Fresh.idle {source target : Stream} {timeBase : TimeBase} {speed : Float} {f : Fitter}
    (h : f.Fresh source target timeBase speed) : f.Idle := by
  obtain ⟨_, inward⟩ := h.exists_inward
  obtain ⟨s, started, stretch⟩ := h.exists_stretch
  refine ⟨inward ▸ RateConverter.start_idle .., ?_, h.outward_eq ▸ RateConverter.start_idle ..⟩
  intro s' mem
  rw [stretch] at mem
  split at mem <;> cases mem
  exact Stretch.start?_idle started

theorem start?_ok {source target : Stream} {timeBase : TimeBase} {speed : Float} {f : Fitter}
    (h : start? source target timeBase speed = .ok f) :
    f.Idle ∧ f.target = target ∧ f.timeBase = timeBase :=
  have fresh := fresh_of_start? h
  ⟨fresh.idle, fresh.target_eq, fresh.timeBase_eq⟩

@[simp] theorem bounded_none (f : Fitter) : bounded (none, f) = .ok (none, f) := if_pos nofun

theorem Idle.flush {f : Fitter} (h : f.Idle) : ∃ g, f.flush = .ok (none, g) := by
  obtain ⟨source, target, timeBase, inward, stretch, outward, origin, emitted, hr, hc⟩ := f
  obtain ⟨hin, hs, hout⟩ := h
  dsimp only at hin hs hout
  cases stretch with
  | none => simp [Fitter.flush, emit, stamp, hin.flush, hout.push, hout.flush]
  | some s =>
    have idle := hs s rfl
    simp [Fitter.flush, emit, stamp, hin.flush, idle.push, idle.flush, hout.push, hout.flush]

end Fitter

end Overdub
