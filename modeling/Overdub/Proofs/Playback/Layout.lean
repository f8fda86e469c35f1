import Overdub.Proofs.Pcm.Layout
import Overdub.Proofs.Playback.Mix

/-!
Mixing in another layout. A mixer for the other layout lays the same speech over the same channels,
from a queue that holds it in that layout.
-/

namespace Overdub

def QueuedFrame.withLayout (f : QueuedFrame) (l : Layout) : QueuedFrame :=
  { f with frame := f.frame.withLayout l }

namespace Queue

def withLayout (q : Queue) (l : Layout) : Queue :=
  { q with frames := q.frames.map (·.withLayout l) }

variable {l : Layout}

theorem withLayout_popMany (q : Queue) (n : Nat) :
    (q.withLayout l).popMany n = (q.popMany n).withLayout l :=
  map_popMany (·.withLayout l) (fun _ => rfl) q n

theorem withLayout_pushAll (id : CueId) (made : List Frame) (q : Queue) :
    (made.foldl (fun q x => q.push ⟨id, x⟩) q).withLayout l =
      (made.map (·.withLayout l)).foldl (fun q x => q.push ⟨id, x⟩) (q.withLayout l) := by
  rw [List.foldl_map]
  exact map_pushAll (·.withLayout l) (fun _ => rfl) (⟨id, ·⟩) made q

theorem withLayout_without (q : Queue) (id : CueId) :
    (q.withLayout l).without id = (q.without id).withLayout l := by
  have kept : (q.withLayout l).frames.filter (·.cue ≠ id) =
      (q.frames.filter (·.cue ≠ id)).map (·.withLayout l) := List.filter_map
  have lengths : count ((q.frames.filter (·.cue ≠ id)).map (·.withLayout l)) =
      count (q.frames.filter (·.cue ≠ id)) := congrArg List.sum (List.map_map ..)
  unfold without
  dsimp only [withLayout] at kept ⊢
  rw [kept, lengths]

end Queue

def MixError.withLayout (l : Layout) : MixError → MixError
  | .primaryFormat expected channels found foundChannels =>
    .primaryFormat { expected with layout := l } channels { found with layout := l } foundChannels
  | .formatMismatch cue expected channels found foundChannels =>
    .formatMismatch cue { expected with layout := l } channels { found with layout := l }
      foundChannels
  | e => e

theorem Format.eq_of_withLayout {a b : Format} {l : Layout} (same : a.layout = b.layout)
    (kinds : { a with layout := l } = { b with layout := l }) : a = b := by
  obtain ⟨k, _⟩ := a
  cases same
  cases kinds
  rfl

theorem Frame.slicesAs?_withLayout {f : Frame} {fmt : Format} (c : Nat) (l : Layout)
    (same : f.stream.format.layout = fmt.layout) :
    (f.withLayout l).slicesAs? { fmt with layout := l } c = f.slicesAs? fmt c := by
  by_cases fits : f.stream.format = fmt ∧ f.stream.channels = c
  · obtain ⟨rfl, rfl⟩ := fits
    unfold slicesAs?
    rw [dif_pos ⟨rfl, rfl⟩, dif_pos ⟨rfl, rfl⟩]
    rfl
  · have fits' : ¬ ((f.withLayout l).stream.format = { fmt with layout := l } ∧
        (f.withLayout l).stream.channels = c) :=
      fun h => fits ⟨Format.eq_of_withLayout same h.1, h.2⟩
    unfold slicesAs?
    rw [dif_neg fits, dif_neg fits']

namespace Mixer

def Pass.withLayout {k : Kind} {c : Nat} (p : Pass k c) (l : Layout) : Pass k c :=
  { p with
    frames := p.frames.map (·.withLayout l)
    outcome := p.outcome.mapError (·.withLayout l) }

theorem withLayout_after {k : Kind} {c : Nat} (head : List (Slice k c))
    (touched retired : List CueId) (p : Pass k c) (l : Layout) :
    (p.after head touched retired).withLayout l =
      (p.withLayout l).after head touched retired := by
  obtain ⟨slices, frames, offset, _ | o⟩ := p <;> rfl

theorem overlay_withLayout (g : Gains) (fmt : Format) (c : Nat) (slices : List (Slice fmt.kind c))
    (offset : Nat) (last : Option CueId) (l : Layout) {frames : List QueuedFrame}
    (same : ∀ f ∈ frames, f.frame.stream.format.layout = fmt.layout) :
    overlay g { fmt with layout := l } c slices offset last (frames.map (·.withLayout l)) =
      (overlay g fmt c slices offset last frames).withLayout l := by
  induction frames generalizing slices offset last with
  | nil => rfl
  | cons f frames ih =>
    have speech := Frame.slicesAs?_withLayout c l (same f List.mem_cons_self)
    have next : (frames.map (·.withLayout l)).head?.map (·.cue) = frames.head?.map (·.cue) := by
      cases frames <;> rfl
    have ended : (if (frames.map (·.withLayout l)).head?.map (·.cue) = some f.cue then []
        else [f.cue]) = if frames.head?.map (·.cue) = some f.cue then [] else [f.cue] := by
      rw [next]
    have rest (slices offset last) := ih slices offset last fun f mem =>
      same f (List.mem_cons_of_mem _ mem)
    rw [List.map_cons, overlay, overlay]
    dsimp only [QueuedFrame.withLayout]
    generalize (f.frame.withLayout l).slicesAs? { fmt with layout := l } c = found at speech
    subst speech
    cases f.frame.slicesAs? fmt c with
    | none => rfl
    | some speech =>
      dsimp only
      generalize slices.zipWith (Slice.mix g) (speech.drop offset) = head
      by_cases past : speech.length < offset
      · rw [if_pos past, if_pos past]
        rfl
      · rw [if_neg past, if_neg past]
        by_cases more : offset + head.length < speech.length
        · rw [if_pos more, if_pos more]
          rfl
        · rw [if_neg more, if_neg more, withLayout_after, ← ended]
          change Pass.after head _ _ (if _ then _ else _) = _
          congr 1
          split
          · rfl
          · exact rest ..

theorem due_withLayout (q : Queue) (l : Layout) (tb : TimeBase) (now : Int) :
    due (q.withLayout l) tb now = due q tb now := by
  obtain ⟨_ | ⟨f, frames⟩, samples⟩ := q <;> rfl

def withLayout (m : Mixer) (l : Layout) : Mixer := { m with stream := m.stream.withLayout l }

theorem mix_withLayout (m : Mixer) {x : Frame} (now : Int) {q : Queue}
    (primary : x.stream.format.layout = m.stream.format.layout)
    (speech : ∀ f ∈ q.frames, f.frame.stream.format.layout = m.stream.format.layout)
    (rate : UInt32) (rate_ne : rate ≠ 0) (l : Layout) :
    let r := m.mix x now q
    (m.withLayout l).mix (x.restream rate rate_ne l) now (q.withLayout l) =
      (r.1.mapError (·.withLayout l), r.2.1.restream rate rate_ne l, r.2.2.1.withLayout l,
        r.2.2.2.withLayout l) := by
  by_cases fits : x.stream.format = m.stream.format ∧ x.stream.channels = m.stream.channels
  · have fits' : (x.restream rate rate_ne l).stream.format = (m.withLayout l).stream.format ∧
        (x.restream rate rate_ne l).stream.channels = (m.withLayout l).stream.channels :=
      ⟨congrArg (fun f : Format => { f with layout := l }) fits.1, fits.2⟩
    unfold mix
    rw [if_pos fits, if_pos fits', due_withLayout]
    by_cases ready : due q x.timeBase now
    · have pass := overlay_withLayout m.gains x.stream.format x.stream.channels x.slices m.offset
        none l fun f mem => (speech f mem).trans primary.symm
      refine (if_pos ready).trans ?_
      rw [if_pos ready]
      dsimp only
      generalize overlay m.gains x.stream.format x.stream.channels x.slices m.offset none
        q.frames = made at pass
      have count : (q.withLayout l).frames.length - (made.withLayout l).frames.length =
          q.frames.length - made.frames.length := by
        simp only [Queue.withLayout, Pass.withLayout, List.length_map]
      change _ = ((made.withLayout l).outcome,
        { x.restream rate rate_ne l with slices := (made.withLayout l).slices },
        { m.withLayout l with offset := (made.withLayout l).offset }, Queue.withLayout _ l)
      rw [← Queue.withLayout_popMany, ← count, ← pass]
      rfl
    · rw [if_neg ready]
      exact if_neg ready
  · have fits' : ¬ ((x.restream rate rate_ne l).stream.format = (m.withLayout l).stream.format ∧
        (x.restream rate rate_ne l).stream.channels = (m.withLayout l).stream.channels) :=
      fun h => fits ⟨Format.eq_of_withLayout primary h.1, h.2⟩
    unfold mix
    rw [if_neg fits, if_neg fits']
    rfl

end Mixer

end Overdub
