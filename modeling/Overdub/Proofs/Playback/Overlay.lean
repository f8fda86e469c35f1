import Overdub.Playback.Mixer
import Overdub.Proofs.Pcm.Channel

/-!
A pass over frames that all have the format of the primary. Such a pass meets no error; it lays
the pending speech over the slices from the first one on and keeps what it has no slices for.
-/

namespace Overdub

def Frame.Fits (f : Frame) (fmt : Format) (c : Nat) : Prop :=
  f.stream.format = fmt ∧ f.stream.channels = c

instance (f : Frame) (fmt : Format) (c : Nat) : Decidable (f.Fits fmt c) :=
  inferInstanceAs (Decidable (_ ∧ _))

theorem Frame.exists_slicesAs? {f : Frame} {fmt : Format} {c : Nat} (h : f.Fits fmt c) :
    ∃ s, f.slicesAs? fmt c = some s :=
  ⟨_, dif_pos h⟩

/-- `offset` samples of the front frame may have been used: none, or not all of them. -/
def Queue.Within (offset : Nat) (frames : List QueuedFrame) : Prop :=
  offset = 0 ∨ ∃ f ∈ frames.head?, offset < f.frame.length

def Queue.speech (fmt : Format) (c : Nat) (frames : List QueuedFrame) : List (Slice fmt.kind c) :=
  frames.flatMap fun f => (f.frame.slicesAs? fmt c).getD []

theorem Queue.speech_cons {fmt : Format} {c : Nat} {f : QueuedFrame} {s : List (Slice fmt.kind c)}
    (h : f.frame.slicesAs? fmt c = some s) (frames : List QueuedFrame) :
    speech fmt c (f :: frames) = s ++ speech fmt c frames := by
  simp [speech, h]

@[simp] theorem Queue.speech_append {fmt : Format} {c : Nat} (fs gs : List QueuedFrame) :
    speech fmt c (fs ++ gs) = speech fmt c fs ++ speech fmt c gs := List.flatMap_append

theorem Queue.Within.append {offset : Nat} {frames : List QueuedFrame} (h : Within offset frames)
    (more : List QueuedFrame) : Within offset (frames ++ more) := by
  rcases h with zero | ⟨f, front, lt⟩
  · exact .inl zero
  · refine .inr ⟨f, ?_, lt⟩
    rw [List.head?_append, front]
    rfl

theorem zipWith_append_right {α β γ : Type} (f : α → β → γ) (xs : List α) (s t : List β) :
    xs.zipWith f (s ++ t) = xs.zipWith f s ++ (xs.drop s.length).zipWith f t := by
  induction s generalizing xs with
  | nil => simp
  | cons y s ih =>
    cases xs with
    | nil => simp
    | cons x xs => simp [ih]

namespace Mixer

open Queue (Within speech speech_cons)

variable {g : Gains} {fmt : Format} {c : Nat}

@[simp] theorem Pass.slices_after {k : Kind} (head : List (Slice k c)) (touched retired : List CueId)
    (rest : Pass k c) : (rest.after head touched retired).slices = head ++ rest.slices := rfl

@[simp] theorem Pass.frames_after {k : Kind} (head : List (Slice k c)) (touched retired : List CueId)
    (rest : Pass k c) : (rest.after head touched retired).frames = rest.frames := rfl

@[simp] theorem Pass.offset_after {k : Kind} (head : List (Slice k c)) (touched retired : List CueId)
    (rest : Pass k c) : (rest.after head touched retired).offset = rest.offset := rfl

theorem Pass.outcome_after {k : Kind} {rest : Pass k c} {o : Outcome} (h : rest.outcome = .ok o)
    (head : List (Slice k c)) (touched retired : List CueId) :
    (rest.after head touched retired).outcome =
      .ok ⟨head.length + o.mixed, touched ++ o.touched, retired ++ o.retired⟩ := by
  rw [after, h]
  rfl

def noted (n : Nat) (last : Option CueId) (cue : CueId) : List CueId :=
  if n = 0 ∨ last = some cue then [] else [cue]

def lastAfter (n : Nat) (last : Option CueId) (cue : CueId) : Option CueId :=
  if n = 0 then last else some cue

def ended (cue : CueId) (frames : List QueuedFrame) : List CueId :=
  if frames.head?.map (·.cue) = some cue then [] else [cue]

theorem exists_slicesAs?_of_within {f : QueuedFrame} {frames : List QueuedFrame} {offset : Nat}
    (hf : f.frame.Fits fmt c) (ho : Within offset (f :: frames)) :
    ∃ s, f.frame.slicesAs? fmt c = some s ∧ offset ≤ s.length := by
  obtain ⟨s, hs⟩ := Frame.exists_slicesAs? hf
  have len : s.length = f.frame.length := Frame.length_of_slicesAs? hs
  refine ⟨s, hs, ?_⟩
  rcases ho with h | ⟨f', h, lt⟩
  · omega
  · cases h
    omega

/-- How a pass without errors goes: there is no frame, or no slice left after a frame was used up;
the front frame holds more samples than there are slices; or it is used up and the pass goes on. -/
inductive Lays (g : Gains) : List (Slice fmt.kind c) → Nat → Option CueId → List QueuedFrame →
    Pass fmt.kind c → Prop
  | empty (slices offset last) : Lays g slices offset last [] ⟨slices, [], offset, .ok {}⟩
  | done (last frames) : Lays g [] 0 last frames ⟨[], frames, 0, .ok {}⟩
  | stop {slices offset last f frames speech} :
      f.frame.slicesAs? fmt c = some speech → offset + slices.length < speech.length →
      Lays g slices offset last (f :: frames)
        ⟨slices.zipWith (Slice.mix g) (speech.drop offset), f :: frames, offset + slices.length,
          .ok ⟨slices.length, noted slices.length last f.cue, []⟩⟩
  | pop {slices offset last f frames speech p} :
      f.frame.slicesAs? fmt c = some speech → offset ≤ speech.length →
      speech.length - offset ≤ slices.length →
      Lays g (slices.drop (speech.length - offset)) 0
        (lastAfter (speech.length - offset) last f.cue) frames p →
      Lays g slices offset last (f :: frames)
        (.after (slices.zipWith (Slice.mix g) (speech.drop offset))
          (noted (speech.length - offset) last f.cue) (ended f.cue frames) p)

theorem overlay_cons {f : QueuedFrame} {s : List (Slice fmt.kind c)}
    (hs : f.frame.slicesAs? fmt c = some s) {offset : Nat} (below : offset ≤ s.length)
    (slices : List (Slice fmt.kind c)) (last : Option CueId) (frames : List QueuedFrame) :
    overlay g fmt c slices offset last (f :: frames) =
      if offset + slices.length < s.length then
        ⟨slices.zipWith (Slice.mix g) (s.drop offset), f :: frames, offset + slices.length,
          .ok ⟨slices.length, noted slices.length last f.cue, []⟩⟩
      else
        .after (slices.zipWith (Slice.mix g) (s.drop offset)) (noted (s.length - offset) last f.cue)
          (ended f.cue frames)
          (if slices.drop (s.length - offset) = [] then ⟨[], frames, 0, .ok {}⟩
          else overlay g fmt c (slices.drop (s.length - offset)) 0
            (lastAfter (s.length - offset) last f.cue) frames) := by
  have heads : (slices.zipWith (Slice.mix g) (s.drop offset)).length =
      min slices.length (s.length - offset) := by
    rw [List.length_zipWith, List.length_drop]
  -- `below` rules out the branch where more is used of the front frame than it holds.
  simp only [overlay, hs, Nat.not_lt.mpr below, if_false, List.isEmpty_iff_length_eq_zero, heads]
  by_cases more : offset + slices.length < s.length
  · have few : min slices.length (s.length - offset) = slices.length := by omega
    rw [few, if_pos more, if_pos more]
    rfl
  · have all : min slices.length (s.length - offset) = s.length - offset := by omega
    rw [all, if_neg (by omega), if_neg more]
    simp only [List.length_eq_zero_iff]
    rfl

theorem overlay_lays {frames : List QueuedFrame} (hf : ∀ f ∈ frames, f.frame.Fits fmt c)
    (slices : List (Slice fmt.kind c)) {offset : Nat} (ho : Within offset frames)
    (last : Option CueId) : Lays g slices offset last frames (overlay g fmt c slices offset last frames) := by
  induction frames generalizing slices offset last with
  | nil => exact .empty slices offset last
  | cons f frames ih =>
    obtain ⟨s, hs, below⟩ := exists_slicesAs?_of_within (hf f List.mem_cons_self) ho
    rw [overlay_cons hs below]
    split
    · next more => exact .stop hs more
    · next all =>
      -- The frame is used up; the pass also ends here if that took the last slice.
      refine .pop hs below (by omega) ?_
      split
      · next none =>
        rw [none]
        exact .done _ frames
      · exact ih (fun f h => hf f (List.mem_cons_of_mem _ h)) _ (.inl rfl) _

namespace Lays

variable {slices : List (Slice fmt.kind c)} {offset : Nat} {last : Option CueId}
  {frames : List QueuedFrame} {p : Pass fmt.kind c}

theorem slices_eq (h : Lays g slices offset last frames p) :
    p.slices = slices.zipWith (Slice.mix g) ((speech fmt c frames).drop offset) ++
      slices.drop ((speech fmt c frames).drop offset).length := by
  induction h with
  | empty => simp [speech]
  | done => simp
  | @stop slices offset last f frames s hs more =>
    rw [speech_cons hs, List.drop_append_of_le_length (by omega), zipWith_append_right]
    -- The front frame alone covers all slices.
    have none : slices.drop (s.drop offset).length = [] := by
      rw [List.drop_eq_nil_iff, List.length_drop]
      omega
    rw [List.length_append, ← List.drop_drop, none]
    simp
  | @pop slices offset last f frames s p hs below few _ ih =>
    rw [speech_cons hs, List.drop_append_of_le_length below, zipWith_append_right]
    simp only [Pass.slices_after, ih, List.length_append, List.length_drop, List.drop_drop, List.drop_zero,
      List.append_assoc]

theorem pending_eq (h : Lays g slices offset last frames p) :
    (speech fmt c p.frames).drop p.offset =
      ((speech fmt c frames).drop offset).drop slices.length := by
  induction h with
  | empty => simp [speech]
  | done => simp
  | stop => rw [List.drop_drop]
  | @pop slices offset last f frames s p hs below few _ ih =>
    rw [speech_cons hs, List.drop_append_of_le_length below, List.drop_append]
    have none : (s.drop offset).drop slices.length = [] := by
      rw [List.drop_eq_nil_iff, List.length_drop]
      omega
    simpa [none] using ih

theorem exists_outcome (h : Lays g slices offset last frames p) :
    ∃ o, p.outcome = .ok o ∧
      o.mixed = min slices.length ((speech fmt c frames).drop offset).length := by
  induction h with
  | empty => exact ⟨{}, rfl, by simp [speech]⟩
  | done => exact ⟨{}, rfl, by simp⟩
  | @stop slices offset last f frames s hs more =>
    refine ⟨_, rfl, ?_⟩
    change slices.length = _
    rw [speech_cons hs, List.length_drop, List.length_append, Nat.min_eq_left (by omega)]
  | @pop slices offset last f frames s p hs below few _ ih =>
    obtain ⟨o, e, mixed⟩ := ih
    refine ⟨_, Pass.outcome_after e _ _ _, ?_⟩
    simp only [mixed, speech_cons hs, List.length_zipWith, List.length_drop, List.length_append]
    omega

theorem frames_suffix (h : Lays g slices offset last frames p) : p.frames <:+ frames := by
  induction h with
  | empty => exact List.suffix_rfl
  | done => exact List.suffix_rfl
  | stop => exact List.suffix_rfl
  | pop _ _ _ _ ih => exact ih.trans (List.suffix_cons _ _)

theorem within (h : Lays g slices offset last frames p) (ho : Within offset frames) :
    Within p.offset p.frames := by
  induction h with
  | empty => exact ho
  | done => exact .inl rfl
  | @stop slices offset last f frames s hs more =>
    refine .inr ⟨f, rfl, ?_⟩
    rw [← Frame.length_of_slicesAs? hs]
    exact more
  | pop _ _ _ _ ih => exact ih (.inl rfl)

end Lays

end Mixer

end Overdub
