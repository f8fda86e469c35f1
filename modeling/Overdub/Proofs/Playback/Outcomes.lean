import Mathlib.Data.List.Dedup
import Mathlib.Data.List.Induction
import Overdub.Proofs.Playback.Desk

/-!
What the outcomes of a run tell of the cues. Where all frames of a cue are pushed together, a mix
notes a cue as heard just if it lays some of its samples, and a cue ends once, in the mix that uses
up the last of its frames.
-/

namespace Overdub

namespace Mixer

open Queue (voices voices_cons)

variable {xs ys rest : List CueId} {x : CueId}

theorem Grouped.head?_of_sublist (h : Grouped (x :: xs)) (sub : ys.Sublist xs) (mem : x ∈ ys) :
    ys.head? = some x := by
  induction sub with
  | slnil => cases mem
  | cons y sub ih =>
    cases h.1 (List.mem_cons_of_mem _ (sub.mem mem))
    exact ih h.2 mem
  | cons_cons y sub =>
    rcases List.mem_cons.mp mem with rfl | mem
    · rfl
    · exact h.1 (List.mem_cons_of_mem _ (sub.mem mem))

theorem Grouped.sublist (h : Grouped xs) (sub : ys.Sublist xs) : Grouped ys := by
  induction sub with
  | slnil => exact h
  | cons x _ ih => exact ih h.2
  | cons_cons x sub ih => exact ⟨h.head?_of_sublist sub, ih h.2⟩

theorem head?_voices {frames : List QueuedFrame} (h : Grouped (x :: frames.map (·.cue)))
    (mem : x ∈ voices frames) : (voices frames).head? = some x := by
  induction frames with
  | nil => cases mem
  | cons f frames ih =>
    obtain ⟨first, tail⟩ := h
    obtain ⟨f', mem', mem''⟩ := List.mem_flatMap.mp mem
    have own : f'.cue = x := (List.eq_of_mem_replicate mem'').symm
    cases first (List.mem_map.mpr ⟨f', mem', own⟩)
    rw [voices_cons] at mem ⊢
    cases long : f.frame.length with
    | zero =>
      rw [long] at mem
      exact ih tail mem
    | succ n => rfl

theorem Grouped.voices {frames : List QueuedFrame} (h : Grouped (frames.map (·.cue))) :
    Grouped (voices frames) := by
  induction frames with
  | nil => trivial
  | cons f frames ih =>
    rw [voices_cons]
    induction f.frame.length with
    | zero => exact ih h.2
    | succ n more =>
      refine ⟨fun mem => ?_, more⟩
      cases n with
      | zero => exact head?_voices h mem
      | succ n => rfl

theorem runs_none_eq_dedup (h : Grouped xs) : runs none xs = xs.dedup := by
  cases xs with
  | nil => rfl
  | cons x xs =>
    change x :: runs (some x) xs = _
    induction xs generalizing x with
    | nil => rfl
    | cons y xs ih =>
      rw [runs]
      split
      · next same =>
        cases same
        rw [List.dedup_cons_of_mem List.mem_cons_self, ih _ h.2]
      · next other =>
        -- Another cue stands between, so this one does not come again.
        have out : x ∉ y :: xs := fun mem => other (h.1 mem).symm
        rw [List.dedup_cons_of_notMem out, ih y h.2]

theorem ends_append (xs ys rest : List CueId) :
    ends (xs ++ ys) rest = ends xs (ys ++ rest) ++ ends ys rest := by
  induction xs with
  | nil => rfl
  | cons x xs ih => rw [List.cons_append, ends, ends, ih, List.append_assoc, List.append_assoc]

theorem ends_concat {x : CueId} (h : rest = [] → x ∉ xs) : ends xs (rest ++ [x]) = ends xs rest := by
  induction xs with
  | nil => rfl
  | cons y xs ih =>
    have same : (xs ++ (rest ++ [x])).head? = some y ↔ (xs ++ rest).head? = some y := by
      cases xs with
      | cons z xs => rfl
      | nil =>
        cases rest with
        | cons z rest => rfl
        | nil =>
          have other := List.ne_of_not_mem_cons (h rfl)
          simp [other]
    rw [ends, ends, if_congr same rfl rfl, ih fun none => List.not_mem_of_not_mem_cons (h none)]

theorem mem_ends_iff_gone (h : Grouped (xs ++ rest)) (x : CueId) :
    x ∈ ends xs rest ↔ x ∈ xs ++ rest ∧ x ∉ rest := by
  rw [mem_ends h, List.mem_append]
  exact ⟨fun ⟨mem, out⟩ => ⟨.inl mem, out⟩, fun ⟨mem, out⟩ => ⟨mem.resolve_right out, out⟩⟩

theorem count_ends (h : Grouped (xs ++ rest)) (x : CueId) :
    (ends xs rest).count x = if x ∈ xs ++ rest ∧ x ∉ rest then 1 else 0 := by
  rw [List.Nodup.count (nodup_ends h)]
  exact if_congr (mem_ends_iff_gone h x) rfl rfl

end Mixer

def Queue.cues (q : Queue) : List CueId := q.frames.map (·.cue)

namespace Desk

open Mixer (Grouped ends)

def Op.cue? : Op → Option CueId
  | push f => some f.cue
  | mix .. => none

def cues (ops : List Op) : List CueId := ops.filterMap Op.cue?

/-- The frames of each cue are pushed in a row: where its cue comes again behind a push, it comes
with the very next call. -/
def Together : List Op → Prop
  | [] => True
  | .mix .. :: ops => Together ops
  | .push f :: ops => (f.cue ∈ cues ops → ops.head?.bind Op.cue? = some f.cue) ∧ Together ops

instance decidableTogether : (ops : List Op) → Decidable (Together ops)
  | [] => inferInstanceAs (Decidable True)
  | .mix .. :: ops => decidableTogether ops
  | .push f :: ops =>
    have := decidableTogether ops
    inferInstanceAs (Decidable ((f.cue ∈ cues ops → _ = _) ∧ Together ops))

def heard (d : Desk) (frame : Frame) (now : Int) : List CueId :=
  if Mixer.due d.queue frame.timeBase now then
    (d.mixer.pendingVoices d.queue).take frame.length
  else []

def outcomes : Desk → List Op → List Mixer.Outcome
  | _, [] => []
  | d, .push f :: ops => outcomes (d.step (.push f)) ops
  | d, .mix frame now :: ops =>
    (d.mixer.mix frame now d.queue).1.toOption.toList ++ outcomes (d.step (.mix frame now)) ops

def retired (d : Desk) (ops : List Op) : List CueId := (d.outcomes ops).flatMap (·.retired)

variable {stream : Stream} {gains : Gains} {pushed : List QueuedFrame} {d : Desk} {x : CueId}
  {op : Op} {ops before after : List Op}

theorem cues_append (before after : List Op) : cues (before ++ after) = cues before ++ cues after :=
  List.filterMap_append

theorem Together.left (h : Together (before ++ after)) : Together before := by
  induction before with
  | nil => trivial
  | cons op before ih =>
    cases op with
    | mix => exact ih h
    | push f =>
      refine ⟨fun mem => ?_, ih h.2⟩
      have next := h.1 (cues_append before after ▸ List.mem_append_left _ mem)
      cases before with
      | nil => cases mem
      | cons => exact next

theorem Together.adjacent (h : Together (before ++ op :: after)) (past : x ∈ cues before)
    (again : x ∈ cues (op :: after)) :
    op.cue? = some x ∧ ∃ earlier f, before = earlier ++ [.push f] := by
  induction before with
  | nil => cases past
  | cons first before ih =>
    by_cases later : x ∈ cues before
    · have h' : Together (before ++ op :: after) := by
        cases first with
        | mix => exact h
        | push => exact h.2
      obtain ⟨own, earlier, f, split⟩ := ih h' later
      exact ⟨own, first :: earlier, f, by rw [split, List.cons_append]⟩
    · cases first with
      | mix => exact absurd past later
      | push f =>
        have own : x = f.cue := (List.mem_cons.mp past).resolve_right later
        subst own
        have next := h.1 (cues_append before _ ▸ List.mem_append_right _ again)
        cases before with
        | nil => exact ⟨next, [], f, rfl⟩
        | cons second before =>
          exact absurd (List.mem_filterMap.mpr ⟨second, List.mem_cons_self, next⟩) later

theorem Together.grouped (h : Together ops) : Grouped (cues ops) := by
  induction ops with
  | nil => trivial
  | cons op ops ih =>
    cases op with
    | mix => exact ih h
    | push f =>
      refine ⟨fun mem => ?_, ih h.2⟩
      have next := h.1 mem
      cases ops with
      | nil => cases mem
      | cons op ops =>
        change op.cue? = some f.cue at next
        exact congrArg List.head? (List.filterMap_cons_some next)

theorem outcomes_append (d : Desk) (before after : List Op) :
    d.outcomes (before ++ after) = d.outcomes before ++ (d.run before).outcomes after := by
  induction before generalizing d with
  | nil => rfl
  | cons op before ih =>
    cases op with
    | push f => exact ih _
    | mix frame now =>
      rw [List.cons_append, outcomes, outcomes, ih, List.append_assoc]
      rfl

theorem retired_append (d : Desk) (before after : List Op) :
    d.retired (before ++ after) = d.retired before ++ (d.run before).retired after := by
  rw [retired, outcomes_append, List.flatMap_append]
  rfl

theorem cues_step_push (d : Desk) (f : QueuedFrame) :
    (d.step (.push f)).queue.cues = d.queue.cues ++ [f.cue] := List.map_append

structure Tells (d : Desk) (frame : Frame) (now : Int) (o : Mixer.Outcome) : Prop where
  result_eq : (d.mixer.mix frame now d.queue).1 = .ok o
  mixed_eq : o.mixed = (d.heard frame now).length
  touched_eq : o.touched = Mixer.runs none (d.heard frame now)
  exists_used : ∃ used, d.queue.cues = used ++ (d.step (.mix frame now)).queue.cues ∧
    o.retired = ends used (d.step (.mix frame now)).queue.cues

theorem Sound.exists_tells (h : d.Sound stream gains pushed) (frame : Frame)
    (hf : frame.Fits stream.format stream.channels) (now : Int) : ∃ o, d.Tells frame now o := by
  have fits : d.mixer.Fits frame := by
    rw [Mixer.Fits, h.stream_eq]
    exact hf
  have frames := h.fits
  rw [← h.stream_eq] at frames
  by_cases due : Mixer.due d.queue frame.timeBase now
  · obtain ⟨o, slices, mixer, queue, e, laid⟩ := Mixer.mix_of_due fits frames h.within due
    have count := Mixer.length_pendingVoices d.mixer (fits.frames frames)
    have mixed := laid.mixed_eq
    rw [← count] at mixed
    have taken : (d.mixer.pendingVoices d.queue).take o.mixed = d.heard frame now := by
      rw [heard, if_pos due, mixed, ← List.take_eq_take_min]
    have left : (d.step (.mix frame now)).queue = queue := by rw [step, e]
    obtain ⟨used, split, retired⟩ := laid.exists_retired
    refine ⟨o, by rw [e], ?_, taken ▸ laid.touched_eq, used.map (·.cue), ?_, left ▸ retired⟩
    · rw [← taken, List.length_take, mixed]
      omega
    · rw [left, Queue.cues, split, List.map_append, Queue.cues]
  · have e := Mixer.mix_of_not_due fits due
    have left : (d.step (.mix frame now)).queue = d.queue := by rw [step, e]
    have none : d.heard frame now = [] := if_neg due
    exact ⟨{}, by rw [e], by rw [none]; rfl, by rw [none]; rfl, [], by rw [left]; rfl, rfl⟩

theorem Tells.outcomes_eq {frame : Frame} {now : Int} {o : Mixer.Outcome}
    (h : d.Tells frame now o) (ops : List Op) :
    d.outcomes (.mix frame now :: ops) = o :: (d.step (.mix frame now)).outcomes ops := by
  rw [outcomes, h.result_eq]
  rfl

theorem mem_of_mem_heard {frame : Frame} {now : Int} (mem : x ∈ d.heard frame now) :
    x ∈ d.queue.cues := by
  unfold heard at mem
  split at mem
  · obtain ⟨f, mem, own⟩ := List.mem_flatMap.mp (List.mem_of_mem_drop (List.mem_of_mem_take mem))
    exact List.mem_map.mpr ⟨f, mem, (List.eq_of_mem_replicate own).symm⟩
  · cases mem

theorem grouped_heard (h : Grouped d.queue.cues) (frame : Frame) (now : Int) :
    Grouped (d.heard frame now) := by
  unfold heard
  split
  · exact h.voices.sublist ((List.take_sublist ..).trans (List.drop_sublist ..))
  · trivial

theorem Sound.mem_of_touched (h : d.Sound stream gains pushed)
    (fits : ∀ op ∈ ops, op.frame.Fits stream.format stream.channels) {o : Mixer.Outcome}
    (mem : o ∈ d.outcomes ops) (touched : x ∈ o.touched) : x ∈ d.queue.cues ++ cues ops := by
  induction ops generalizing d pushed with
  | nil => cases mem
  | cons op ops ih =>
    have first := fits op List.mem_cons_self
    have rest := fun op mem => fits op (List.mem_cons_of_mem _ mem)
    cases op with
    | push f =>
      have later := ih (h.push first) rest mem
      rw [cues_step_push, List.append_assoc] at later
      exact later
    | mix frame now =>
      obtain ⟨o', tells⟩ := h.exists_tells frame first now
      rw [tells.outcomes_eq] at mem
      rcases List.mem_cons.mp mem with rfl | mem
      · rw [tells.touched_eq] at touched
        exact List.mem_append_left _ (mem_of_mem_heard (Mixer.mem_runs touched))
      · obtain ⟨used, split, -⟩ := tells.exists_used
        rw [split, List.append_assoc]
        exact List.mem_append_right _ (ih (h.mix first now) rest mem)

/-- All cues that were pushed are in the queue or before it, and those before it have ended as far
as they are not in the queue. -/
theorem Together.exists_used (together : Together ops) (gains : Gains)
    (fits : ∀ op ∈ ops, op.frame.Fits stream.format stream.channels) :
    let d := (fresh stream gains).run ops
    ∃ used, cues ops = used ++ d.queue.cues ∧
      (fresh stream gains).retired ops = ends used d.queue.cues := by
  intro d
  induction ops using List.reverseRecOn with
  | nil => exact ⟨[], rfl, rfl⟩
  | append_singleton ops op ih =>
    have earlier := fun op mem => fits op (List.mem_append_left _ mem)
    have last := fits op (List.mem_append_right _ List.mem_cons_self)
    have sound := (sound_fresh stream gains).run earlier
    obtain ⟨used, split, ended⟩ := ih together.left earlier
    have after : d = ((fresh stream gains).run ops).step op := List.foldl_append
    rw [cues_append, retired_append, ended, after, split]
    cases op with
    | push f =>
      rw [cues_step_push]
      refine ⟨used, List.append_assoc .., ?_⟩
      rw [Mixer.ends_concat]
      · exact List.append_nil _
      -- A queue that ran empty did so in a mix, and no cue comes again behind one.
      intro none mem
      have past : f.cue ∈ cues ops := split ▸ List.mem_append_left _ mem
      obtain ⟨-, ops', g, rfl⟩ := together.adjacent past List.mem_cons_self
      rw [run, List.foldl_append] at none
      exact List.concat_ne_nil _ _ ((cues_step_push _ g).symm.trans none)
    | mix frame now =>
      obtain ⟨o, tells⟩ := sound.exists_tells frame last now
      obtain ⟨used', split', retired'⟩ := tells.exists_used
      refine ⟨used ++ used', ?_, ?_⟩
      · rw [List.append_assoc, List.append_assoc, ← split']
        exact congrArg (used ++ ·) (List.append_nil _)
      · rw [Mixer.ends_append, ← split', retired, tells.outcomes_eq, ← retired']
        exact congrArg _ (List.append_nil _)

/-- In a run over frames of one format in which the frames of each cue are pushed in a row, a mix
notes as heard the cues of the samples that it lays, each once and in the order of the queue, and as
ended those whose last frame leaves the queue in it, which are not heard again. So each cue that was
pushed ends once, or not at all while it is in the queue. -/
theorem tells_each_cue_once (stream : Stream) (gains : Gains) (ops : List Op)
    (fits : ∀ op ∈ ops, op.frame.Fits stream.format stream.channels) (together : Together ops) :
    (∀ before frame now after, ops = before ++ .mix frame now :: after →
      let d := (fresh stream gains).run before
      let e := d.step (.mix frame now)
      ∃ o, (d.mixer.mix frame now d.queue).1 = .ok o ∧
        o.mixed = (d.heard frame now).length ∧
        o.touched = (d.heard frame now).dedup ∧
        o.retired.Nodup ∧
        (∀ x, x ∈ o.retired ↔ x ∈ d.queue.cues ∧ x ∉ e.queue.cues) ∧
        ∀ x ∈ o.retired, ∀ p ∈ e.outcomes after, x ∉ p.touched) ∧
    ∀ x, ((fresh stream gains).retired ops).count x =
      if x ∈ cues ops ∧ x ∉ ((fresh stream gains).run ops).queue.cues then 1 else 0 := by
  constructor
  · rintro before frame now after rfl d e
    have fits' : ∀ op ∈ before, _ := fun op mem => fits op (List.mem_append_left _ mem)
    have first : frame.Fits _ _ := fits (.mix frame now) (List.mem_append_right _ List.mem_cons_self)
    have rest : ∀ op ∈ after, _ := fun op mem =>
      fits op (List.mem_append_right _ (List.mem_cons_of_mem _ mem))
    have sound := (sound_fresh stream gains).run fits'
    obtain ⟨past, pushed, -⟩ := together.left.exists_used gains fits'
    change cues before = past ++ d.queue.cues at pushed
    obtain ⟨o, tells⟩ := sound.exists_tells frame first now
    obtain ⟨used, split, retired⟩ := tells.exists_used
    change d.queue.cues = used ++ e.queue.cues at split
    have grouped : Grouped d.queue.cues :=
      together.left.grouped.sublist (pushed ▸ List.sublist_append_right past _)
    have ended (x) : x ∈ o.retired ↔ x ∈ d.queue.cues ∧ x ∉ e.queue.cues := by
      rw [retired, split]
      exact Mixer.mem_ends_iff_gone (split ▸ grouped) x
    refine ⟨o, tells.result_eq, tells.mixed_eq, ?_, ?_, ended, ?_⟩
    · rw [tells.touched_eq, Mixer.runs_none_eq_dedup (grouped_heard grouped frame now)]
    · rw [retired]
      exact Mixer.nodup_ends (split ▸ grouped)
    · intro x mem p told touched
      obtain ⟨queued, gone⟩ := (ended x).mp mem
      have later := (sound.mix first now).mem_of_touched rest told touched
      have again : x ∈ cues after := (List.mem_append.mp later).resolve_left gone
      have before' : x ∈ cues before := pushed ▸ List.mem_append_right _ queued
      obtain ⟨own, -⟩ := together.adjacent before' again
      cases own
  · intro x
    obtain ⟨used, pushed, retired⟩ := together.exists_used gains fits
    rw [retired, pushed, Mixer.count_ends (pushed ▸ together.grouped)]

theorem tells_each_cue_once_five_samples :
    let tone := Frame.mono .s16 8000 (by decide)
    let ops : List Op := [.push ⟨0, tone 0 [1, 2]⟩, .push ⟨0, tone 2 []⟩, .push ⟨1, tone 2 [3, 4, 5]⟩,
      .mix (tone 0 [0, 0, 0]) 0, .mix (tone 3 [0, 0]) 3]
    let d := (fresh (tone 0 []).stream {}).run (ops.take 3)
    (∀ op ∈ ops, op.frame.Fits ⟨.s16, .interleaved⟩ 1) ∧ Together ops ∧
    (∃ o, (d.mixer.mix (tone 0 [0, 0, 0]) 0 d.queue).1 = .ok o ∧ o.touched = [0, 1] ∧
      0 ∈ o.retired ∧ 1 ∉ o.retired) ∧
    ((fresh (tone 0 []).stream {}).retired ops).count 1 = 1 := by
  intro tone ops d
  have fits : ∀ op ∈ ops, op.frame.Fits ⟨.s16, .interleaved⟩ 1 := by decide
  have together : Together ops := by decide
  obtain ⟨calls, count⟩ := tells_each_cue_once (tone 0 []).stream {} ops fits together
  obtain ⟨o, ok, -, touched, -, ended, -⟩ := calls (ops.take 3) (tone 0 [0, 0, 0]) 0 _ rfl
  refine ⟨fits, together, ⟨o, ok, touched.trans (by decide), ?_, ?_⟩, (count 1).trans (by decide)⟩
  · rw [ended]
    decide
  · rw [ended]
    decide

end Desk

end Overdub
