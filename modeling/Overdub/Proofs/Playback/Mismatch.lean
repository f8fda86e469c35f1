import Mathlib.Data.List.TakeWhile
import Overdub.Proofs.Playback.Mix

/-!
Queues in which some frames may not have the format of the mixer. A mix goes as far as the first of
these. If it comes upon it, the frames before are used up and it stands at the front with nothing
used of it, so that the mix can go on behind it once it is gone.
-/

namespace Overdub

namespace Queue

def ahead (fmt : Format) (c : Nat) (frames : List QueuedFrame) : List QueuedFrame :=
  frames.takeWhile fun f => f.frame.Fits fmt c

variable {fmt : Format} {c : Nat} {fs : List QueuedFrame}

theorem fits_of_mem_ahead (frames : List QueuedFrame) :
    ∀ f ∈ ahead fmt c frames, f.frame.Fits fmt c := by
  intro f mem
  have passed := List.mem_takeWhile_imp (p := fun f : QueuedFrame => f.frame.Fits fmt c) mem
  exact of_decide_eq_true passed

theorem ahead_append (h : ∀ f ∈ fs, f.frame.Fits fmt c) (gs : List QueuedFrame) :
    ahead fmt c (fs ++ gs) = fs ++ ahead fmt c gs :=
  List.takeWhile_append_of_pos fun f mem => decide_eq_true (h f mem)

theorem ahead_ahead (frames : List QueuedFrame) :
    ahead fmt c (ahead fmt c frames) = ahead fmt c frames := List.takeWhile_idem

theorem exists_behind (fmt : Format) (c : Nat) (frames : List QueuedFrame) :
    ∃ behind, frames = ahead fmt c frames ++ behind ∧ ∀ f ∈ behind.head?, ¬ f.frame.Fits fmt c := by
  refine ⟨_, List.takeWhile_append_dropWhile.symm, ?_⟩
  intro f front
  have fails := List.head?_dropWhile_not (fun f : QueuedFrame => decide (f.frame.Fits fmt c)) frames
  rw [Option.mem_def.mp front] at fails
  simpa using fails

/-- Of the front frame some may have been used, if it has the format. -/
def Settled (fmt : Format) (c offset : Nat) (frames : List QueuedFrame) : Prop :=
  Within offset (ahead fmt c frames)

theorem Within.settled_append {offset : Nat} (h : Within offset fs)
    (fits : ∀ f ∈ fs, f.frame.Fits fmt c) (gs : List QueuedFrame) :
    Settled fmt c offset (fs ++ gs) := by
  rw [Settled, ahead_append fits]
  exact h.append _

theorem Settled.append {offset : Nat} (h : Settled fmt c offset fs) (gs : List QueuedFrame) :
    Settled fmt c offset (fs ++ gs) := by
  obtain ⟨behind, split, -⟩ := exists_behind fmt c fs
  rw [split, List.append_assoc]
  exact Within.settled_append h (fits_of_mem_ahead fs) _

theorem drop_speech_of_within {offset : Nat} (h : Within offset fs)
    (fits : ∀ f ∈ fs, f.frame.Fits fmt c) (gs : List QueuedFrame) :
    (speech fmt c (fs ++ gs)).drop offset = (speech fmt c fs).drop offset ++ speech fmt c gs := by
  have le := h.le_count
  rw [← length_speech fits] at le
  rw [speech_append, List.drop_append_of_le_length le]

theorem Settled.le_length {offset : Nat} (h : Settled fmt c offset fs) :
    offset ≤ (speech fmt c fs).length := by
  obtain ⟨behind, split, -⟩ := exists_behind fmt c fs
  have le := h.le_count
  rw [← length_speech (fits_of_mem_ahead fs)] at le
  rw [split, speech_append, List.length_append]
  exact Nat.le_add_right_of_le le

end Queue

def Frame.withSpeech (g : Gains) (f : Frame)
    (speech : List (Slice f.stream.format.kind f.stream.channels)) : Frame :=
  { f with slices := f.slices.zipWith (Slice.mix g) speech ++ f.slices.drop speech.length }

@[simp] theorem Frame.withSpeech_nil (g : Gains) (f : Frame) : f.withSpeech g [] = f := by
  simp [withSpeech]

@[simp] theorem Frame.length_withSpeech (g : Gains) (f : Frame)
    (speech : List (Slice f.stream.format.kind f.stream.channels)) :
    (f.withSpeech g speech).length = f.length := by
  change (f.slices.zipWith _ speech ++ f.slices.drop speech.length).length = f.slices.length
  rw [List.length_append, List.length_zipWith, List.length_drop]
  omega

def MixError.ofFrame (fmt : Format) (c : Nat) (x : QueuedFrame) : MixError :=
  .formatMismatch x.cue fmt c x.frame.format x.frame.channels

namespace Mixer

open Queue (Within Settled speech ahead)

section Overlay

variable {g : Gains} {fmt : Format} {c : Nat} {slices : List (Slice fmt.kind c)} {offset : Nat}
  {fs : List QueuedFrame}

theorem length_drop_speech_cons {f : QueuedFrame} {s : List (Slice fmt.kind c)}
    (hs : f.frame.slicesAs? fmt c = some s) (below : offset ≤ s.length) :
    ((speech fmt c (f :: fs)).drop offset).length =
      s.length - offset + (speech fmt c fs).length := by
  rw [Queue.speech_cons hs, List.length_drop, List.length_append]
  omega

theorem overlay_append_mismatch (fits : ∀ f ∈ fs, f.frame.Fits fmt c) (ho : Within offset fs)
    {x : QueuedFrame} (other : ¬ x.frame.Fits fmt c) (behind : List QueuedFrame)
    (short : fs = [] ∨ ((speech fmt c fs).drop offset).length < slices.length)
    (last : Option CueId) :
    overlay g fmt c slices offset last (fs ++ x :: behind) =
      ⟨(overlay g fmt c slices offset last fs).slices, x :: behind, 0,
        .error (.ofFrame fmt c x)⟩ := by
  induction fs generalizing slices offset last with
  | nil =>
    have none : x.frame.slicesAs? fmt c = none := dif_neg other
    have zero : offset = 0 := ho.resolve_right nofun
    simp only [List.nil_append, overlay, none, zero]
    rfl
  | cons f fs ih =>
    obtain ⟨s, hs, below⟩ := exists_slicesAs?_of_within (fits f List.mem_cons_self) ho
    have few := short.resolve_left (List.cons_ne_nil _ _)
    rw [length_drop_speech_cons hs below] at few
    have used : ¬ offset + slices.length < s.length := by omega
    have left : slices.drop (s.length - offset) ≠ [] := by
      rw [ne_eq, List.drop_eq_nil_iff]
      omega
    have short' : fs = [] ∨
        ((speech fmt c fs).drop 0).length < (slices.drop (s.length - offset)).length := by
      right
      rw [List.drop_zero, List.length_drop]
      omega
    rw [List.cons_append, overlay_cons hs below, overlay_cons hs below, if_neg used, if_neg used,
      if_neg left, if_neg left,
      ih (fun f mem => fits f (List.mem_cons_of_mem _ mem)) (.inl rfl) short']
    rfl

theorem overlay_append_of_covered (fits : ∀ f ∈ fs, f.frame.Fits fmt c) (ho : Within offset fs)
    (some : fs ≠ []) (covered : slices.length ≤ ((speech fmt c fs).drop offset).length)
    (behind : List QueuedFrame) (last : Option CueId) :
    let p := overlay g fmt c slices offset last fs
    ∃ o, overlay g fmt c slices offset last (fs ++ behind) =
      ⟨p.slices, p.frames ++ behind, p.offset, .ok o⟩ := by
  induction fs generalizing slices offset last with
  | nil => exact absurd rfl some
  | cons f fs ih =>
    obtain ⟨s, hs, below⟩ := exists_slicesAs?_of_within (fits f List.mem_cons_self) ho
    rw [length_drop_speech_cons hs below] at covered
    dsimp only
    rw [List.cons_append, overlay_cons hs below, overlay_cons hs below]
    split
    · exact ⟨_, rfl⟩
    · split
      · exact ⟨_, rfl⟩
      · next left =>
        rw [List.drop_eq_nil_iff] at left
        have more : fs ≠ [] := by
          rintro rfl
          exact left (by simpa [speech] using covered)
        have covered' : (slices.drop (s.length - offset)).length ≤
            ((speech fmt c fs).drop 0).length := by
          rw [List.drop_zero, List.length_drop]
          omega
        obtain ⟨o, pass⟩ := ih (fun f mem => fits f (List.mem_cons_of_mem _ mem)) (.inl rfl) more
          covered' (lastAfter (s.length - offset) last f.cue)
        rw [pass]
        exact ⟨_, rfl⟩

theorem overlay_append (fits : ∀ f ∈ fs, f.frame.Fits fmt c) (ho : Within offset fs)
    {behind : List QueuedFrame}
    (covered : behind = [] ∨ fs ≠ [] ∧ slices.length ≤ ((speech fmt c fs).drop offset).length)
    (last : Option CueId) :
    let p := overlay g fmt c slices offset last fs
    ∃ o, overlay g fmt c slices offset last (fs ++ behind) =
      ⟨p.slices, p.frames ++ behind, p.offset, .ok o⟩ := by
  rcases covered with rfl | ⟨some, covered⟩
  · obtain ⟨o, ok, -⟩ := (overlay_lays (g := g) fits slices ho last).exists_outcome
    refine ⟨o, ?_⟩
    rw [List.append_nil, List.append_nil, ← ok]
  · exact overlay_append_of_covered fits ho some covered behind last

end Overlay

instance (m : Mixer) (frame : Frame) : Decidable (m.Fits frame) :=
  inferInstanceAs (Decidable (frame.Fits _ _))

def aheadOf (q : Queue) (frame : Frame) : List QueuedFrame :=
  ahead frame.stream.format frame.stream.channels q.frames

def restAhead (m : Mixer) (q : Queue) (frame : Frame) :
    List (Slice frame.stream.format.kind frame.stream.channels) :=
  (speech frame.stream.format frame.stream.channels (aheadOf q frame)).drop m.offset

def readyFor (m : Mixer) (q : Queue) (frame : Frame) (now : Int) :
    List (Slice frame.stream.format.kind frame.stream.channels) :=
  if m.Fits frame ∧ due q frame.timeBase now then m.restAhead q frame else []

/-- A mix over `frame` runs out of speech before `x`, which has another format. -/
structure ComesUpon (m : Mixer) (q : Queue) (frame : Frame) (now : Int) (x : QueuedFrame)
    (behind : List QueuedFrame) : Prop where
  fits : m.Fits frame
  due : due q frame.timeBase now
  frames_eq : q.frames = aheadOf q frame ++ x :: behind
  other : ¬ x.frame.Fits frame.stream.format frame.stream.channels
  short : aheadOf q frame = [] ∨ (m.restAhead q frame).length < frame.length

/-- How a mix ends. -/
inductive Ends (m : Mixer) (q : Queue) (frame : Frame) (now : Int) :
    Except MixError Outcome → Mixer → Queue → Prop
  | refused : ¬ m.Fits frame →
      Ends m q frame now
        (.error (.primaryFormat m.stream.format m.stream.channels frame.format frame.channels)) m q
  | stopped {x behind n r} : m.ComesUpon q frame now x behind → n.offset = 0 →
      r.frames = x :: behind →
      Ends m q frame now (.error (.ofFrame frame.stream.format frame.stream.channels x)) n r
  | through {o n r} : m.Fits frame → (∀ x behind, ¬ m.ComesUpon q frame now x behind) →
      Ends m q frame now (.ok o) n r

/-- The first `k` pending samples are taken out of the queue, and nothing else is. -/
structure Takes (fmt : Format) (c : Nat) (m : Mixer) (q : Queue) (k : Nat) (n : Mixer) (r : Queue) :
    Prop where
  stream_eq : n.stream = m.stream
  gains_eq : n.gains = m.gains
  exists_used : ∃ used, q.frames = used ++ r.frames ∧ ∀ f ∈ used, f.frame.Fits fmt c
  le_pending : k ≤ ((speech fmt c q.frames).drop m.offset).length
  pending_eq : (speech fmt c r.frames).drop n.offset =
    ((speech fmt c q.frames).drop m.offset).drop k
  settled : Settled fmt c n.offset r.frames
  counted : q.Counted → r.Counted

theorem takes_nothing {fmt : Format} {c : Nat} {m : Mixer} {q : Queue}
    (settled : Settled fmt c m.offset q.frames) : Takes fmt c m q 0 m q where
  stream_eq := rfl
  gains_eq := rfl
  exists_used := ⟨[], rfl, nofun⟩
  le_pending := Nat.zero_le _
  pending_eq := rfl
  settled := settled
  counted := id

section Mix

variable {m : Mixer} {q : Queue} {frame : Frame} {now : Int}

theorem readyFor_of_due (fits : m.Fits frame) (due : due q frame.timeBase now) :
    m.readyFor q frame now = m.restAhead q frame :=
  if_pos ⟨fits, due⟩

theorem fits_of_mem_aheadOf (q : Queue) (frame : Frame) :
    ∀ f ∈ aheadOf q frame, f.frame.Fits frame.stream.format frame.stream.channels :=
  Queue.fits_of_mem_ahead q.frames

theorem ComesUpon.unique {x y : QueuedFrame} {fs gs : List QueuedFrame}
    (h : m.ComesUpon q frame now x fs) (h' : m.ComesUpon q frame now y gs) : x = y ∧ fs = gs :=
  List.cons_eq_cons.mp (List.append_cancel_left (h.frames_eq.symm.trans h'.frames_eq))

theorem comesUpon_iff (settled : Settled m.stream.format m.stream.channels m.offset q.frames)
    {x : QueuedFrame} {behind : List QueuedFrame} :
    m.ComesUpon q frame now x behind ↔ m.Fits frame ∧ due q frame.timeBase now ∧
      q.frames = ahead m.stream.format m.stream.channels q.frames ++ x :: behind ∧
      (ahead m.stream.format m.stream.channels q.frames = [] ∨
        Queue.count (ahead m.stream.format m.stream.channels q.frames) <
          m.offset + frame.length) := by
  by_cases fits : m.Fits frame
  · have le := settled.le_count
    have same : ahead m.stream.format m.stream.channels q.frames = aheadOf q frame := by
      rw [aheadOf, fits.1, fits.2]
    have length : (m.restAhead q frame).length = Queue.count (aheadOf q frame) - m.offset := by
      rw [restAhead, List.length_drop, Queue.length_speech (fits_of_mem_aheadOf q frame)]
    rw [same] at le ⊢
    constructor
    · rintro ⟨-, due, split, -, short⟩
      rw [length] at short
      exact ⟨fits, due, split, short.imp_right (by omega)⟩
    · rintro ⟨-, due, split, short⟩
      obtain ⟨behind', split', other⟩ :=
        Queue.exists_behind frame.stream.format frame.stream.channels q.frames
      have rest := List.append_cancel_left (split'.symm.trans split)
      rw [rest] at other
      refine ⟨fits, due, split, other x rfl, ?_⟩
      rw [length]
      exact short.imp_right (by omega)
  · exact ⟨fun h => absurd h.fits fits, fun h => absurd h.1 fits⟩

theorem readyFor_aheadOf (fits : m.Fits frame) (due : due q frame.timeBase now) (n : Nat) :
    m.readyFor ⟨aheadOf q frame, n⟩ frame now = m.restAhead q frame := by
  have whole : aheadOf ⟨aheadOf q frame, n⟩ frame = aheadOf q frame := Queue.ahead_ahead q.frames
  have same : m.restAhead ⟨aheadOf q frame, n⟩ frame = m.restAhead q frame := by
    rw [restAhead, whole, restAhead]
  by_cases none : aheadOf q frame = []
  · have nothing : m.restAhead q frame = [] := by
      rw [restAhead, none]
      exact List.drop_nil
    have early : ¬ Mixer.due ⟨aheadOf q frame, n⟩ frame.timeBase now := by
      rw [none]
      exact Bool.false_ne_true
    rw [readyFor, if_neg fun h => early h.2, nothing]
  · obtain ⟨behind, split, -⟩ : ∃ behind, q.frames = aheadOf q frame ++ behind ∧ _ :=
      Queue.exists_behind frame.stream.format frame.stream.channels q.frames
    have front : Queue.front? ⟨aheadOf q frame, n⟩ = q.front? := by
      obtain ⟨f, fs, first⟩ := List.exists_cons_of_ne_nil none
      rw [Queue.front?, Queue.front?, split, first]
      rfl
    have due' : Mixer.due ⟨aheadOf q frame, n⟩ frame.timeBase now := by
      rw [Mixer.due, front]
      exact due
    rw [readyFor_of_due fits due', same]

theorem popMany_of_append {used left : List QueuedFrame} (h : q.frames = used ++ left) :
    (q.popMany (q.frames.length - left.length)).frames = left :=
  Queue.frames_popMany_of_suffix ⟨used, h.symm⟩

theorem pending_eq_append (frame : Frame) {behind : List QueuedFrame}
    (split : q.frames = aheadOf q frame ++ behind) (within : Within m.offset (aheadOf q frame)) :
    (speech frame.stream.format frame.stream.channels q.frames).drop m.offset =
      m.restAhead q frame ++ speech frame.stream.format frame.stream.channels behind := by
  rw [split]
  exact Queue.drop_speech_of_within within (Queue.fits_of_mem_ahead _) behind

theorem mix_of_comesUpon {x : QueuedFrame} {behind : List QueuedFrame}
    (h : m.ComesUpon q frame now x behind)
    (settled : Settled frame.stream.format frame.stream.channels m.offset q.frames) :
    ∃ n r, m.mix frame now q =
        (.error (.ofFrame frame.stream.format frame.stream.channels x),
          frame.withSpeech m.gains (m.restAhead q frame), n, r) ∧
      n.offset = 0 ∧ r.frames = x :: behind ∧
      Takes frame.stream.format frame.stream.channels m q (m.restAhead q frame).length n r := by
  have fits := fits_of_mem_aheadOf q frame
  have lays := overlay_lays (g := m.gains) fits frame.slices settled none
  have pass := overlay_append_mismatch (g := m.gains) fits settled h.other behind h.short none
  rw [← h.frames_eq, lays.slices_eq] at pass
  have left := popMany_of_append h.frames_eq
  have pending := pending_eq_append frame h.frames_eq settled
  have e : m.mix frame now q = _ := (if_pos h.fits).trans (if_pos h.due)
  rw [pass] at e
  refine ⟨_, _, e, rfl, left, ?_⟩
  exact {
    stream_eq := rfl
    gains_eq := rfl
    exists_used := ⟨aheadOf q frame, by rw [left]; exact h.frames_eq, fits⟩
    le_pending := by
      rw [pending, List.length_append]
      exact Nat.le_add_right _ _
    pending_eq := by
      rw [pending, List.drop_left, left, List.drop_zero]
    settled := .inl rfl
    counted := fun counted => counted.popMany _ }

theorem mix_of_not_comesUpon (hf : m.Fits frame) (due : due q frame.timeBase now)
    (none : ∀ x behind, ¬ m.ComesUpon q frame now x behind)
    (settled : Settled frame.stream.format frame.stream.channels m.offset q.frames) :
    ∃ o n r, m.mix frame now q = (.ok o, frame.withSpeech m.gains (m.restAhead q frame), n, r) ∧
      Takes frame.stream.format frame.stream.channels m q
        (min frame.length (m.restAhead q frame).length) n r := by
  have fits := fits_of_mem_aheadOf q frame
  obtain ⟨behind, split, other⟩ : ∃ behind, q.frames = aheadOf q frame ++ behind ∧ _ :=
    Queue.exists_behind frame.stream.format frame.stream.channels q.frames
  have pending := pending_eq_append frame split settled
  -- Either nothing stands behind the frames ahead or they have speech for the whole frame.
  have covered : behind = [] ∨
      aheadOf q frame ≠ [] ∧ frame.slices.length ≤ (m.restAhead q frame).length := by
    rcases behind with _ | ⟨x, behind⟩
    · exact .inl rfl
    · have long : ¬ (aheadOf q frame = [] ∨ (m.restAhead q frame).length < frame.length) :=
        fun short => none x behind ⟨hf, due, split, other x rfl, short⟩
      rw [not_or, Nat.not_lt] at long
      exact .inr long
  have lays := overlay_lays (g := m.gains) fits frame.slices settled Option.none
  obtain ⟨o, pass⟩ := overlay_append (g := m.gains) fits settled covered Option.none
  rw [← split] at pass
  have e : m.mix frame now q = _ := (if_pos hf).trans (if_pos due)
  generalize overlay m.gains _ _ frame.slices m.offset Option.none (aheadOf q frame) = p
    at lays pass
  rw [pass] at e
  obtain ⟨used, halves⟩ := lays.frames_suffix
  have whole : q.frames = used ++ (p.frames ++ behind) := by
    rw [← List.append_assoc, halves]
    exact split
  have left := popMany_of_append whole
  have fits' : ∀ f ∈ p.frames, f.frame.Fits _ _ := fun f mem =>
    fits f (halves ▸ List.mem_append_right _ mem)
  have within := lays.within settled
  have slices : p.slices = (frame.withSpeech m.gains (m.restAhead q frame)).slices :=
    lays.slices_eq
  rw [slices] at e
  refine ⟨o, _, _, e, ?_⟩
  exact {
    stream_eq := rfl
    gains_eq := rfl
    exists_used := by
      refine ⟨used, ?_, fun f mem => fits f (halves ▸ List.mem_append_left _ mem)⟩
      rw [left]
      exact whole
    le_pending := by
      rw [pending, List.length_append]
      omega
    pending_eq := by
      rw [pending, left, Queue.drop_speech_of_within within fits', lays.pending_eq]
      change (m.restAhead q frame).drop frame.slices.length ++ _ = _
      rcases covered with rfl | ⟨-, enough⟩
      · have nothing : speech frame.stream.format frame.stream.channels [] = [] := rfl
        rw [nothing, List.append_nil, List.append_nil, List.drop_eq_drop_min]
        rfl
      · have room : min frame.length (m.restAhead q frame).length = frame.slices.length :=
          Nat.min_eq_left enough
        rw [room, List.drop_append_of_le_length enough]
    settled := by
      rw [left]
      exact within.settled_append fits' behind
    counted := fun counted => counted.popMany _ }

theorem Takes.of_fits {fmt : Format} {c k : Nat} {n : Mixer} {r : Queue} (hf : frame.Fits fmt c)
    (h : Takes frame.stream.format frame.stream.channels m q k n r) : Takes fmt c m q k n r := by
  obtain ⟨rfl, rfl⟩ := hf
  exact h

/-- What any mix does: it lays the speech that is ready over the frame and takes it out of the
queue, whichever way it ends. -/
theorem mix_ends (settled : Settled m.stream.format m.stream.channels m.offset q.frames)
    (frame : Frame) (now : Int) :
    ∃ result n r, m.mix frame now q =
        (result, frame.withSpeech m.gains (m.readyFor q frame now), n, r) ∧
      m.Ends q frame now result n r ∧
      Takes m.stream.format m.stream.channels m q
        (min frame.length (m.readyFor q frame now).length) n r := by
  by_cases fits : m.Fits frame
  · by_cases due : due q frame.timeBase now
    · have settled' : Settled frame.stream.format frame.stream.channels m.offset q.frames := by
        rw [fits.1, fits.2]
        exact settled
      rw [readyFor_of_due fits due]
      by_cases meets : ∃ x behind, m.ComesUpon q frame now x behind
      · obtain ⟨x, behind, meets⟩ := meets
        obtain ⟨n, r, e, offset, left, takes⟩ := mix_of_comesUpon meets settled'
        have all : min frame.length (m.restAhead q frame).length =
            (m.restAhead q frame).length := by
          apply Nat.min_eq_right
          rcases meets.short with none | less
          · simp [restAhead, none, speech]
          · exact Nat.le_of_lt less
        rw [all]
        exact ⟨_, n, r, e, .stopped meets offset left, takes.of_fits fits⟩
      · simp only [not_exists] at meets
        obtain ⟨o, n, r, e, takes⟩ := mix_of_not_comesUpon fits due meets settled'
        exact ⟨_, n, r, e, .through fits meets, takes.of_fits fits⟩
    · have none : m.readyFor q frame now = [] := if_neg fun h => due h.2
      rw [none, Frame.withSpeech_nil, List.length_nil, Nat.min_zero]
      exact ⟨_, m, q, mix_of_not_due fits due, .through fits fun _ _ h => due h.due,
        takes_nothing settled⟩
  · have none : m.readyFor q frame now = [] := if_neg fun h => fits h.1
    rw [none, Frame.withSpeech_nil, List.length_nil, Nat.min_zero]
    exact ⟨_, m, q, mix_of_not_fits fits now q, .refused fits, takes_nothing settled⟩

end Mix

namespace Ends

variable {m n : Mixer} {q r : Queue} {frame : Frame} {now : Int} {result : Except MixError Outcome}

theorem exists_primaryFormat_iff (h : m.Ends q frame now result n r) :
    (∃ fmt c found k, result = .error (.primaryFormat fmt c found k)) ↔ ¬ m.Fits frame := by
  cases h with
  | refused other => exact ⟨fun _ => other, fun _ => ⟨_, _, _, _, rfl⟩⟩
  | stopped meets => exact ⟨fun ⟨_, _, _, _, e⟩ => (nomatch e), fun other => absurd meets.fits other⟩
  | through fits => exact ⟨fun ⟨_, _, _, _, e⟩ => (nomatch e), fun other => absurd fits other⟩

theorem unchanged (h : m.Ends q frame now result n r) (other : ¬ m.Fits frame) : n = m ∧ r = q := by
  cases h with
  | refused => exact ⟨rfl, rfl⟩
  | stopped meets => exact absurd meets.fits other
  | through fits => exact absurd fits other

theorem exists_mismatch_iff (h : m.Ends q frame now result n r) (cue : CueId) :
    (∃ fmt c found k, result = .error (.formatMismatch cue fmt c found k)) ↔
      ∃ x behind, x.cue = cue ∧ m.ComesUpon q frame now x behind := by
  cases h with
  | refused other =>
    exact ⟨fun ⟨_, _, _, _, e⟩ => (nomatch e), fun ⟨_, _, _, meets⟩ => absurd meets.fits other⟩
  | @stopped x behind _ _ meets =>
    constructor
    · rintro ⟨_, _, _, _, ⟨⟩⟩
      exact ⟨x, behind, rfl, meets⟩
    · rintro ⟨y, _, rfl, meets'⟩
      obtain ⟨rfl, -⟩ := meets.unique meets'
      exact ⟨_, _, _, _, rfl⟩
  | through _ none =>
    exact ⟨fun ⟨_, _, _, _, e⟩ => (nomatch e), fun ⟨x, _, _, meets⟩ => absurd meets (none x _)⟩

theorem of_comesUpon (h : m.Ends q frame now result n r) {x : QueuedFrame}
    {behind : List QueuedFrame} (meets : m.ComesUpon q frame now x behind) :
    n.offset = 0 ∧ r.frames = x :: behind := by
  cases h with
  | refused other => exact absurd meets.fits other
  | stopped meets' offset left =>
    obtain ⟨rfl, rfl⟩ := meets.unique meets'
    exact ⟨offset, left⟩
  | through _ none => exact absurd meets (none x behind)

theorem ne_pastFront (h : m.Ends q frame now result n r) (offset length : Nat) :
    result ≠ .error (.pastFront offset length) := by
  cases h <;> nofun

end Ends

end Mixer

end Overdub
