import Overdub.Proofs.Playback.Desk

/-!
Speech is mixed in the order in which it was queued, every sample once. Main statement: after any
run of pushes and mixes each channel of what is pending is what was pushed less the samples mixed
so far, and the next mix lays its head over the primary.
-/

namespace Overdub

namespace Queue

def channel (fmt : Format) (c j : Nat) (frames : List QueuedFrame) : List fmt.kind.Scalar :=
  frames.flatMap fun f => (f.frame.channelAs? fmt c j).getD []

theorem channel_eq_map (fmt : Format) {c j : Nat} (hj : j < c) (frames : List QueuedFrame) :
    channel fmt c j frames = (speech fmt c frames).map (·[j]) := by
  induction frames with
  | nil => rfl
  | cons f frames ih =>
    unfold channel speech at *
    rw [List.flatMap_cons, List.flatMap_cons, List.map_append, ih, Frame.channelAs?_eq_map _ _ hj]
    cases f.frame.slicesAs? fmt c <;> rfl

end Queue

namespace Mixer

def pending (m : Mixer) (q : Queue) (fmt : Format) (c j : Nat) : List fmt.kind.Scalar :=
  (Queue.channel fmt c j q.frames).drop m.offset

theorem pending_eq_map (m : Mixer) (q : Queue) (frame : Frame) {j : Nat}
    (hj : j < frame.stream.channels) :
    m.pending q frame.stream.format frame.stream.channels j =
      (m.pendingFor q frame).map (·[j]) := by
  rw [pending, Queue.channel_eq_map _ hj, pendingFor, List.map_drop]

theorem map_zipWith_mix {k : Kind} {c : Nat} (g : Gains) (ps ss : List (Slice k c)) {j : Nat}
    (hj : j < c) :
    (ps.zipWith (Slice.mix g) ss).map (·[j]) =
      (ps.map (·[j])).zipWith (k.mix g) (ss.map (·[j])) := by
  rw [List.map_zipWith, List.zipWith_map]
  congr 1
  funext p s
  exact Vector.getElem_zipWith hj

theorem Laid.channel_eq {m n : Mixer} {frame : Frame} {q r : Queue} {o : Outcome}
    {slices : List (Slice frame.stream.format.kind frame.stream.channels)}
    (h : Laid m frame q o slices n r) {j : Nat} (hj : j < frame.stream.channels) :
    ({ frame with slices } : Frame).channel j =
      (frame.channel j).zipWith (frame.stream.format.kind.mix m.gains)
        (m.pending q frame.stream.format frame.stream.channels j) ++
      (frame.channel j).drop o.mixed := by
  rw [Frame.channel_eq_map { frame with slices } hj, Frame.channel_eq_map frame hj,
    pending_eq_map m q frame hj]
  change slices.map (·[j]) = _
  rw [h.slices_eq, List.map_append, map_zipWith_mix m.gains _ _ hj, List.map_drop]

end Mixer

namespace Desk

/-- Whatever was pushed and mixed before, every channel of what is pending is what was pushed less
the samples mixed. A mix that is not due changes nothing; one that is due lays the head of what is
pending over the primary and takes just that out of the queue. -/
theorem mixes_once_in_order (stream : Stream) (gains : Gains) (ops : List Op)
    (hops : ∀ op ∈ ops, op.frame.Fits stream.format stream.channels)
    (frame : Frame) (hf : frame.Fits stream.format stream.channels) (now : Int) :
    let d := (fresh stream gains).run ops
    let fmt := frame.stream.format
    let c := frame.stream.channels
    (∀ j < stream.channels,
      let pushed := Queue.channel stream.format stream.channels j (ops.flatMap Op.pushed)
      d.mixed ≤ pushed.length ∧
      d.mixer.pending d.queue stream.format stream.channels j = pushed.drop d.mixed) ∧
    ((∀ f ∈ d.queue.front?,
        ∃ pts, f.frame.pts = some pts ∧ now < f.frame.timeBase.rescale pts frame.timeBase) →
      d.mixer.mix frame now d.queue = (.ok {}, frame, d.mixer, d.queue)) ∧
    ((∃ f ∈ d.queue.front?,
        ∀ pts, f.frame.pts = some pts → f.frame.timeBase.rescale pts frame.timeBase ≤ now) →
      ∃ o slices mixer queue,
        d.mixer.mix frame now d.queue = (.ok o, { frame with slices }, mixer, queue) ∧
        slices.length = frame.length ∧
        ∀ j < c,
          let pending := d.mixer.pending d.queue fmt c j
          o.mixed = min frame.length pending.length ∧
          ({ frame with slices } : Frame).channel j =
            (frame.channel j).zipWith (frame.stream.format.kind.mix gains) pending ++
              (frame.channel j).drop o.mixed ∧
          mixer.pending queue fmt c j = pending.drop o.mixed) := by
  have sound := (sound_fresh stream gains).run hops
  rw [List.nil_append] at sound
  generalize (fresh stream gains).run ops = d at sound
  have fits : d.mixer.Fits frame := by
    unfold Mixer.Fits
    rw [sound.stream_eq]
    exact hf
  refine ⟨fun j hj => ?_, fun shut => ?_, fun due => ?_⟩
  · intro pushed
    have whole : pushed = _ := Queue.channel_eq_map _ hj _
    rw [Mixer.pending, Queue.channel_eq_map _ hj, whole, ← List.map_drop, ← List.map_drop,
      sound.pending, List.length_map]
    exact ⟨sound.mixed_le, rfl⟩
  · apply Mixer.mix_of_not_due fits
    intro due
    obtain ⟨f, front, before⟩ := Mixer.due_iff.mp due
    obtain ⟨pts, start, later⟩ := shut f front
    have := before pts start
    omega
  · have hq := sound.fits
    rw [← sound.stream_eq] at hq
    obtain ⟨o, slices, mixer, queue, e, laid⟩ :=
      Mixer.mix_of_due fits hq sound.within (Mixer.due_iff.mpr due)
    refine ⟨o, slices, mixer, queue, e, laid.length_eq, fun j hj => ⟨?_, ?_, ?_⟩⟩
    · rw [Mixer.pending_eq_map _ _ _ hj, List.length_map]
      exact laid.mixed_eq
    · rw [laid.channel_eq hj, sound.gains_eq]
    · rw [Mixer.pending_eq_map _ _ _ hj, Mixer.pending_eq_map _ _ _ hj, laid.pending_eq,
        List.map_drop]

theorem mixes_once_in_order_five_samples :
    let tone := Frame.mono .s16 8000 (by decide)
    let ops : List Op := [.push ⟨0, tone 0 [1, 2, 3]⟩, .push ⟨1, tone 3 [4, 5]⟩,
      .mix (tone 0 [0, 0, 0, 0]) 0]
    let d := (fresh (tone 0 []).stream {}).run ops
    (∀ op ∈ ops, op.frame.Fits ⟨.s16, .interleaved⟩ 1) ∧
    (d.mixer.pending d.queue ⟨.s16, .interleaved⟩ 1 0).map Int16.toInt = [5] ∧
    ∃ o frame mixer queue, d.mixer.mix (tone 4 [7, 7]) 4 d.queue = (.ok o, frame, mixer, queue) ∧
      o.mixed = 1 := by
  intro tone ops d
  have fits : ∀ op ∈ ops, op.frame.Fits ⟨.s16, .interleaved⟩ 1 := by decide
  obtain ⟨left, _, next⟩ :=
    mixes_once_in_order (tone 0 []).stream {} ops fits (tone 4 [7, 7]) (by decide) 4
  have rest : (d.mixer.pending d.queue ⟨.s16, .interleaved⟩ 1 0).map Int16.toInt = [5] :=
    (congrArg (List.map Int16.toInt) (left 0 (by decide)).2).trans (by decide)
  refine ⟨fits, rest, ?_⟩
  obtain ⟨o, slices, mixer, queue, e, _, all⟩ := next (Mixer.due_iff.mp (by decide))
  refine ⟨o, _, mixer, queue, e, ?_⟩
  have one := congrArg List.length rest
  rw [List.length_map] at one
  rw [(all 0 (by decide)).1]
  exact congrArg (min 2) one

end Desk

end Overdub
