import Overdub.Proofs.Pcm.Layout
import Overdub.Proofs.Playback.Fifo
import Overdub.Proofs.Playback.Whole

/-!
Silence over integer samples at gains of one. Signed samples stay as they are. Samples of one byte
keep silence at 128 but are added from zero on, so silence raises them.
-/

namespace Overdub

theorem Gains.sum_unit {lo hi p s : Int} (hp : lo ≤ p ∧ p ≤ hi) (hs : lo ≤ s ∧ s ≤ hi)
    (few : p.natAbs < 2 ^ 53) (few' : s.natAbs < 2 ^ 53) : Gains.sum {} lo hi p s = p + s := by
  have kept : ∀ n, lo ≤ n ∧ n ≤ hi → n.natAbs < 2 ^ 53 → scaled lo hi 1 n = n := by
    intro n range few
    unfold scaled
    rw [wholePart_mul_one few, clampTo_of_mem range.1 range.2]
  unfold Gains.sum
  rw [kept p hp few, kept s hs few']

namespace Kind

section Unit

theorem mix_unit_u8 (p s : UInt8) :
    Kind.u8.mix {} p s = UInt8.ofNat (min 255 (p.toNat + s.toNat)) := by
  have hp := p.toNat_lt
  have hs := s.toNat_lt
  have sum : Gains.sum {} 0 (2 ^ 16 - 1) p.toNat s.toNat = p.toNat + s.toNat :=
    Gains.sum_unit (by omega) (by omega) (by omega) (by omega)
  refine (congrArg (fun n => UInt8.ofNat (clampTo 0 (2 ^ 8 - 1) n).toNat) sum).trans ?_
  unfold clampTo
  congr 1
  omega

theorem mix_unit_s16 (p s : Int16) :
    Kind.s16.mix {} p s = Int16.ofInt (clampTo (-2 ^ 15) (2 ^ 15 - 1) (p.toInt + s.toInt)) := by
  have hp := p.le_toInt
  have hp' := p.toInt_lt
  have hs := s.le_toInt
  have hs' := s.toInt_lt
  have sum : Gains.sum {} (-2 ^ 31) (2 ^ 31 - 1) p.toInt s.toInt = p.toInt + s.toInt :=
    Gains.sum_unit (by omega) (by omega) (by omega) (by omega)
  exact congrArg (fun n => Int16.ofInt (clampTo (-2 ^ 15) (2 ^ 15 - 1) n)) sum

theorem mix_unit_s32 (p s : Int32) :
    Kind.s32.mix {} p s = Int32.ofInt (clampTo (-2 ^ 31) (2 ^ 31 - 1) (p.toInt + s.toInt)) := by
  have hp := p.le_toInt
  have hp' := p.toInt_lt
  have hs := s.le_toInt
  have hs' := s.toInt_lt
  have sum : Gains.sum {} (-2 ^ 63) (2 ^ 63 - 1) p.toInt s.toInt = p.toInt + s.toInt :=
    Gains.sum_unit (by omega) (by omega) (by omega) (by omega)
  exact congrArg (fun n => Int32.ofInt (clampTo (-2 ^ 31) (2 ^ 31 - 1) n)) sum

end Unit

def underSilence : (k : Kind) → k.Scalar → k.Scalar
  | .u8, x => UInt8.ofNat (min 255 (UInt8.toNat x + 128))
  | _, x => x

/-- Under silence the scalar stays as it is: of those of one byte only the greatest does. -/
def IsKept : (k : Kind) → k.Scalar → Prop
  | .u8, x => x = (255 : UInt8)
  | _, _ => True

theorem isKept_of_ne {k : Kind} (wide : k ≠ .u8) (x : k.Scalar) : k.IsKept x := by
  cases k with
  | u8 => exact absurd rfl wide
  | _ => trivial

theorem underSilence_eq_self_iff {k : Kind} {x : k.Scalar} : k.underSilence x = x ↔ k.IsKept x := by
  cases k with
  | u8 =>
    have low := UInt8.toNat_lt x
    have fits : min 255 (UInt8.toNat x + 128) < UInt8.size := by
      have : UInt8.size = 256 := rfl
      omega
    change UInt8.ofNat (min 255 (UInt8.toNat x + 128)) = x ↔ x = (255 : UInt8)
    rw [← UInt8.toNat_inj, ← UInt8.toNat_inj, UInt8.toNat_ofNat_of_lt' fits]
    change _ ↔ UInt8.toNat x = 255
    omega
  | _ => exact iff_of_true rfl trivial

theorem mix_silence {k : Kind} (integer : k ∈ [Kind.u8, .s16, .s32]) (x : k.Scalar) :
    k.mix {} x k.silence = k.underSilence x := by
  cases k with
  | u8 => exact mix_unit_u8 x 128
  | s16 =>
    have low := Int16.le_toInt x
    have high := Int16.toInt_lt x
    refine (mix_unit_s16 x 0).trans ?_
    rw [Int16.toInt_zero, Int.add_zero, clampTo_of_mem low (by omega), Int16.ofInt_toInt]
    rfl
  | s32 =>
    have low := Int32.le_toInt x
    have high := Int32.toInt_lt x
    refine (mix_unit_s32 x 0).trans ?_
    rw [Int32.toInt_zero, Int.add_zero, clampTo_of_mem low (by omega), Int32.ofInt_toInt]
    rfl
  | f32 => simp at integer
  | f64 => simp at integer

end Kind

def Frame.IsSilence (f : Frame) (s : Stream) : Prop :=
  ∃ tb pts n, silence s tb pts n = .ok f

theorem Frame.slicesAs?_of_isSilence {f : Frame} {s : Stream} (silent : f.IsSilence s) :
    f.slicesAs? s.format s.channels =
      some (.replicate f.length (.replicate s.channels s.format.kind.silence)) := by
  obtain ⟨tb, pts, n, made⟩ := silent
  unfold silence at made
  split at made
  · cases made
  split at made
  · cases made
  split at made
  · cases made
  · cases made
    unfold length
    rw [List.length_replicate]
    exact dif_pos ⟨rfl, rfl⟩

theorem Queue.speech_eq_replicate {s : Stream} {frames : List QueuedFrame}
    (silent : ∀ f ∈ frames, f.frame.IsSilence s) :
    speech s.format s.channels frames =
      .replicate (count frames) (.replicate s.channels s.format.kind.silence) := by
  induction frames with
  | nil => rfl
  | cons f frames ih =>
    rw [speech_cons (Frame.slicesAs?_of_isSilence (silent f List.mem_cons_self)),
      ih fun g mem => silent g (List.mem_cons_of_mem _ mem), count_cons,
      List.replicate_append_replicate]

theorem zipWith_replicate_right {α β γ : Type} (f : α → β → γ) (xs : List α) (n : Nat) (b : β) :
    xs.zipWith f (.replicate n b) = (xs.take n).map (f · b) := by
  induction xs generalizing n with
  | nil => simp
  | cons x xs ih =>
    cases n with
    | zero => rfl
    | succ n => rw [List.replicate_succ, List.zipWith_cons_cons, ih]; rfl

theorem map_take_append_drop_eq_self_iff {α : Type} {u : α → α} {xs : List α} {n : Nat} :
    (xs.take n).map u ++ xs.drop n = xs ↔ ∀ x ∈ xs.take n, u x = x := by
  calc (xs.take n).map u ++ xs.drop n = xs
    _ ↔ (xs.take n).map u ++ xs.drop n = xs.take n ++ xs.drop n := by rw [List.take_append_drop]
    _ ↔ (xs.take n).map u = (xs.take n).map id := by rw [List.append_left_inj, List.map_id]
    _ ↔ ∀ x ∈ xs.take n, u x = x := List.map_inj_left

theorem Frame.eq_iff_channels {f : Frame}
    {slices : List (Slice f.stream.format.kind f.stream.channels)} :
    ({ f with slices } : Frame) = f ↔
      ∀ j < f.stream.channels, ({ f with slices } : Frame).channel j = f.channel j := by
  have slices_eq : ({ f with slices } : Frame) = f ↔ slices = f.slices := by
    cases f
    simp
  rw [slices_eq]
  constructor
  · intro same _ _
    rw [same]
  · intro same
    apply Slice.ext_channels f.channels_pos
    intro j hj
    have one := same j hj
    rwa [channel_eq_map { f with slices } hj, channel_eq_map f hj] at one

theorem Frame.length_channel (f : Frame) {j : Nat} (hj : j < f.stream.channels) :
    (f.channel j).length = f.length := by
  rw [channel_eq_map f hj, List.length_map]
  rfl

namespace Desk

variable {stream : Stream} {d : Desk} {frame : Frame} {pushed : List QueuedFrame}

theorem Sound.pendingFor_eq_replicate (sound : d.Sound frame.stream {} pushed)
    (silent : ∀ f ∈ pushed, f.frame.IsSilence frame.stream) :
    d.mixer.pendingFor d.queue frame = .replicate (Queue.count pushed - d.mixed)
      (.replicate frame.stream.channels frame.stream.format.kind.silence) := by
  rw [Mixer.pendingFor, sound.pending, Queue.speech_eq_replicate silent, List.drop_replicate]

theorem Sound.exists_mix_of_silence (sound : d.Sound frame.stream {} pushed)
    (integer : frame.stream.format.kind ∈ [Kind.u8, .s16, .s32])
    (silent : ∀ f ∈ pushed, f.frame.IsSilence frame.stream) (now : Int) :
    ∃ o slices mixer queue,
      d.mixer.mix frame now d.queue = (.ok o, { frame with slices }, mixer, queue) ∧
      o.mixed = (if Mixer.due d.queue frame.timeBase now then
        min frame.length (Queue.count pushed - d.mixed) else 0) ∧
      ∀ j < frame.stream.channels, ({ frame with slices } : Frame).channel j =
        ((frame.channel j).take o.mixed).map frame.stream.format.kind.underSilence ++
          (frame.channel j).drop o.mixed := by
  have fits : d.mixer.Fits frame := by
    unfold Mixer.Fits
    rw [sound.stream_eq]
    exact ⟨rfl, rfl⟩
  by_cases due : Mixer.due d.queue frame.timeBase now
  · have hq := sound.fits
    rw [← sound.stream_eq] at hq
    obtain ⟨o, slices, mixer, queue, e, laid⟩ := Mixer.mix_of_due fits hq sound.within due
    have pending := sound.pendingFor_eq_replicate silent
    have mixed := laid.mixed_eq
    rw [pending, List.length_replicate] at mixed
    refine ⟨o, slices, mixer, queue, e, mixed.trans (if_pos due).symm, ?_⟩
    intro j hj
    have alike : (fun x => frame.stream.format.kind.mix {} x frame.stream.format.kind.silence) =
        frame.stream.format.kind.underSilence := funext (Kind.mix_silence integer)
    rw [laid.channel_eq hj, sound.gains_eq, Mixer.pending_eq_map _ _ _ hj, pending,
      List.map_replicate, Vector.getElem_replicate, zipWith_replicate_right, alike,
      List.take_eq_take_min, frame.length_channel hj, Nat.min_comm, ← mixed]
  · refine ⟨{}, frame.slices, d.mixer, d.queue, Mixer.mix_of_not_due fits due,
      (if_neg due).symm, ?_⟩
    intro j _
    rfl

/-- After any run of mixes and of pushes of silence, the next mix raises samples of one byte by the
128 at which they keep silence, and leaves a frame as it is where all of them are at the top. Other
integers it always leaves as they are. -/
theorem silence_kept_iff {stream : Stream} (integer : stream.format.kind ∈ [Kind.u8, .s16, .s32])
    {ops : List Op} (fits : ∀ op ∈ ops, op.frame.Fits stream.format stream.channels)
    (silent : ∀ f ∈ ops.flatMap Op.pushed, f.frame.IsSilence stream)
    {frame : Frame} (same : frame.stream = stream) (now : Int) :
    let d := (fresh stream {}).run ops
    let k := frame.stream.format.kind
    ∃ o slices mixer queue,
      d.mixer.mix frame now d.queue = (.ok o, { frame with slices }, mixer, queue) ∧
      o.mixed = (if Mixer.due d.queue frame.timeBase now then
        min frame.length (Queue.count (ops.flatMap Op.pushed) - d.mixed) else 0) ∧
      (∀ j < frame.stream.channels, ({ frame with slices } : Frame).channel j =
        ((frame.channel j).take o.mixed).map k.underSilence ++ (frame.channel j).drop o.mixed) ∧
      (k ≠ .u8 → ({ frame with slices } : Frame) = frame) ∧
      (({ frame with slices } : Frame) = frame ↔
        ∀ j < frame.stream.channels, ∀ x ∈ (frame.channel j).take o.mixed, k.IsKept x) := by
  subst same
  have sound := (sound_fresh frame.stream {}).run fits
  rw [List.nil_append] at sound
  intro d k
  change d.Sound _ _ _ at sound
  obtain ⟨o, slices, mixer, queue, e, mixed, channel⟩ :=
    sound.exists_mix_of_silence integer silent now
  have kept : ({ frame with slices } : Frame) = frame ↔
      ∀ j < frame.stream.channels, ∀ x ∈ (frame.channel j).take o.mixed, k.IsKept x := by
    rw [Frame.eq_iff_channels]
    refine forall₂_congr fun j hj => ?_
    rw [channel j hj, map_take_append_drop_eq_self_iff]
    exact forall₂_congr fun x _ => Kind.underSilence_eq_self_iff
  refine ⟨o, slices, mixer, queue, e, mixed, channel, ?_, kept⟩
  intro wide
  exact kept.mpr fun _ _ x _ => Kind.isKept_of_ne wide x

theorem silence_kept_iff_two_samples :
    let stream : Stream := ⟨8000, 2, ⟨.s16, .planar⟩⟩
    let frame (slices : List (Slice .s16 2)) : Frame :=
      ⟨stream, .perSample 8000 (by decide), some 0, slices, by decide, by decide⟩
    let primary := frame [#v[-32768, 7], #v[32767, 0]]
    let d := (fresh stream {}).run [.push ⟨0, frame [#v[0, 0], #v[0, 0], #v[0, 0]]⟩]
    ∃ o mixer queue, d.mixer.mix primary 0 d.queue = (.ok o, primary, mixer, queue) ∧
      o.mixed = 2 := by
  intro stream frame primary d
  have silent : ∀ f ∈ [Op.push ⟨0, frame [#v[0, 0], #v[0, 0], #v[0, 0]]⟩].flatMap Op.pushed,
      f.frame.IsSilence stream := by
    simp only [List.flatMap_singleton, Op.pushed, List.mem_singleton, forall_eq]
    exact ⟨_, _, 3, rfl⟩
  obtain ⟨o, slices, mixer, queue, e, mixed, -, kept, -⟩ :=
    @silence_kept_iff stream (by decide) _ (by decide) silent primary rfl 0
  rw [kept (by decide)] at e
  exact ⟨o, mixer, queue, e, mixed.trans (by decide)⟩

/-- Not so for one byte. -/
theorem silence_raises_a_byte :
    let frame := Frame.mono .u8 8000 (by decide) 0
    let d := (fresh (frame []).stream {}).run [.push ⟨0, frame [128]⟩]
    let mixed := (d.mixer.mix (frame [100]) 0 d.queue).2.1
    (frame [128]).IsSilence (frame []).stream ∧ Mixer.due d.queue (frame []).timeBase 0 ∧
      mixed.channelAs? ⟨.u8, .interleaved⟩ 1 0 = some [(228 : UInt8)] ∧
      (frame [100]).channelAs? ⟨.u8, .interleaved⟩ 1 0 = some [(100 : UInt8)] := by
  intro frame d mixed
  exact ⟨⟨_, _, 1, rfl⟩, by decide, by decide +kernel, by decide⟩

end Desk

end Overdub
