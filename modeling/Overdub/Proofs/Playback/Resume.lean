import Overdub.Proofs.Playback.Desk
import Overdub.Proofs.Playback.Mismatch

/-!
A run of pushes and mixes over frames of any format. The mixer and the queue are ready for the next
mix after every call, also after one that came upon a frame of another format.
-/

namespace Overdub

namespace Desk

open Queue (Settled speech)

def share (d : Desk) (frame : Frame) (now : Int) : Nat :=
  min frame.length (d.mixer.readyFor d.queue frame now).length

def played : Desk → List Op → Nat
  | _, [] => 0
  | d, .push f :: ops => played (d.step (.push f)) ops
  | d, .mix frame now :: ops => d.share frame now + played (d.step (.mix frame now)) ops

def pending (stream : Stream) (d : Desk) : List (Slice stream.format.kind stream.channels) :=
  (speech stream.format stream.channels d.queue.frames).drop d.mixer.offset

/-- What holds after every run, whatever the formats of the frames. -/
structure Ready (stream : Stream) (gains : Gains) (d : Desk) : Prop where
  stream_eq : d.mixer.stream = stream
  gains_eq : d.mixer.gains = gains
  settled : Settled stream.format stream.channels d.mixer.offset d.queue.frames
  counted : d.queue.Counted

/-- From `d` to `e` the frames `pushed` came in, and `k` samples were taken out at the front. -/
structure Passes (stream : Stream) (d : Desk) (pushed : List QueuedFrame) (k : Nat) (e : Desk) :
    Prop where
  exists_used : ∃ used, d.queue.frames ++ pushed = used ++ e.queue.frames ∧
    ∀ f ∈ used, f.frame.Fits stream.format stream.channels
  le_pending : k ≤ (d.pending stream ++ speech stream.format stream.channels pushed).length
  pending_eq : e.pending stream =
    (d.pending stream ++ speech stream.format stream.channels pushed).drop k

variable {stream : Stream} {gains : Gains} {d e : Desk}

theorem Passes.trans {f : Desk} {fs gs : List QueuedFrame} {j k : Nat} (h : Passes stream d fs j e)
    (h' : Passes stream e gs k f) : Passes stream d (fs ++ gs) (j + k) f := by
  obtain ⟨⟨used, split, fits⟩, le, pending⟩ := h
  obtain ⟨⟨used', split', fits'⟩, le', pending'⟩ := h'
  refine ⟨⟨used ++ used', ?_, ?_⟩, ?_, ?_⟩
  · rw [← List.append_assoc, split, List.append_assoc, split', List.append_assoc]
  · intro f mem
    exact (List.mem_append.mp mem).elim (fits f) (fits' f)
  · rw [pending, List.length_append, List.length_drop] at le'
    rw [Queue.speech_append, ← List.append_assoc, List.length_append]
    omega
  · rw [pending', pending, Queue.speech_append, ← List.append_assoc, ← List.drop_drop,
      List.drop_append_of_le_length le]

theorem ready_fresh (stream : Stream) (gains : Gains) : (fresh stream gains).Ready stream gains :=
  ⟨rfl, rfl, .inl rfl, rfl⟩

theorem Ready.push (h : d.Ready stream gains) (f : QueuedFrame) :
    (d.step (.push f)).Ready stream gains ∧ Passes stream d [f] 0 (d.step (.push f)) := by
  refine ⟨⟨h.stream_eq, h.gains_eq, h.settled.append [f], h.counted.push f⟩, ?_⟩
  refine ⟨⟨[], rfl, nofun⟩, Nat.zero_le _, ?_⟩
  change (speech _ _ (d.queue.frames ++ [f])).drop d.mixer.offset = _
  rw [Queue.speech_append, List.drop_append_of_le_length h.settled.le_length]
  rfl

theorem Ready.mix (h : d.Ready stream gains) (frame : Frame) (now : Int) :
    (d.step (.mix frame now)).Ready stream gains ∧
      Passes stream d [] (d.share frame now) (d.step (.mix frame now)) := by
  obtain ⟨stream_eq, gains_eq, settled, counted⟩ := h
  subst stream_eq
  obtain ⟨result, n, r, e, -, takes⟩ := Mixer.mix_ends settled frame now
  have queue : (d.step (.mix frame now)).queue = r := by rw [step, e]
  have mixer : (d.step (.mix frame now)).mixer = n := by rw [step, e]
  constructor
  · exact ⟨mixer ▸ takes.stream_eq, mixer ▸ takes.gains_eq.trans gains_eq,
      mixer ▸ queue ▸ takes.settled, queue ▸ takes.counted counted⟩
  · obtain ⟨used, split, fits⟩ := takes.exists_used
    have none : speech d.mixer.stream.format d.mixer.stream.channels [] = [] := rfl
    refine ⟨⟨used, ?_, fits⟩, ?_, ?_⟩
    · rw [List.append_nil, queue]
      exact split
    · rw [none, List.append_nil]
      exact takes.le_pending
    · rw [none, List.append_nil, pending, queue, mixer]
      exact takes.pending_eq

theorem Ready.run (h : d.Ready stream gains) (ops : List Op) :
    (d.run ops).Ready stream gains ∧
      Passes stream d (ops.flatMap Op.pushed) (d.played ops) (d.run ops) := by
  induction ops generalizing d with
  | nil => exact ⟨h, ⟨[], List.append_nil _, nofun⟩, Nat.zero_le _, (List.append_nil _).symm⟩
  | cons op ops ih =>
    cases op with
    | push f =>
      obtain ⟨ready, first⟩ := h.push f
      obtain ⟨ready', rest⟩ := ih ready
      have passes := first.trans rest
      rw [Nat.zero_add] at passes
      exact ⟨ready', passes⟩
    | mix frame now =>
      obtain ⟨ready, first⟩ := h.mix frame now
      obtain ⟨ready', rest⟩ := ih ready
      exact ⟨ready', first.trans rest⟩

/-- From `d` on, whatever is pushed and mixed, the speech in the queue is laid from the front on,
sample by sample: a run has taken out what its mixes laid, and the next mix goes on from there. -/
structure Continues (stream : Stream) (gains : Gains) (d : Desk) (ops : List Op) : Prop where
  passes : Passes stream d (ops.flatMap Op.pushed) (d.played ops) (d.run ops)
  next (frame : Frame) (now : Int) :
    ((d.run ops).mixer.mix frame now (d.run ops).queue).2.1 =
      frame.withSpeech gains ((d.run ops).mixer.readyFor (d.run ops).queue frame now)

theorem Ready.continues (h : d.Ready stream gains) (ops : List Op) :
    Continues stream gains d ops := by
  obtain ⟨ready, passes⟩ := h.run ops
  refine ⟨passes, fun frame now => ?_⟩
  have settled := ready.settled
  rw [← ready.stream_eq] at settled
  obtain ⟨result, n, r, e, -⟩ := Mixer.mix_ends settled frame now
  rw [e, ready.gains_eq]

/-- What a mix over `frame` leaves when it comes upon `x`. -/
structure Interrupted (d : Desk) (frame : Frame) (now : Int) (x : QueuedFrame)
    (behind : List QueuedFrame) (frame' : Frame) (mixer : Mixer) (queue : Queue) : Prop where
  frame_eq : frame' = frame.withSpeech d.mixer.gains (d.mixer.restAhead d.queue frame)
  length_eq : frame'.length = frame.length
  alone_eq : ∀ n, (d.mixer.mix frame now ⟨Mixer.aheadOf d.queue frame, n⟩).2.1 = frame'
  frames_eq : queue.frames = x :: behind
  offset_eq : mixer.offset = 0
  counted : queue.Counted

theorem Ready.interrupted (h : d.Ready stream gains) {frame frame' : Frame} {now : Int}
    {x : QueuedFrame} {behind : List QueuedFrame} {mixer : Mixer} {queue : Queue}
    (meets : d.mixer.ComesUpon d.queue frame now x behind)
    (frame_eq : frame' = frame.withSpeech d.mixer.gains (d.mixer.readyFor d.queue frame now))
    (offset_eq : mixer.offset = 0) (frames_eq : queue.frames = x :: behind)
    (counted : queue.Counted) : Interrupted d frame now x behind frame' mixer queue := by
  rw [Mixer.readyFor_of_due meets.fits meets.due] at frame_eq
  refine ⟨frame_eq, ?_, ?_, frames_eq, offset_eq, counted⟩
  · rw [frame_eq, Frame.length_withSpeech]
  · intro n
    have settled : Settled d.mixer.stream.format d.mixer.stream.channels d.mixer.offset
        (Mixer.aheadOf d.queue frame) := by
      rw [Mixer.aheadOf, meets.fits.1, meets.fits.2, Settled, Queue.ahead_ahead, h.stream_eq]
      exact h.settled
    obtain ⟨result, m, r, e, -⟩ :=
      Mixer.mix_ends (q := ⟨Mixer.aheadOf d.queue frame, n⟩) settled frame now
    rw [e, Mixer.readyFor_aheadOf meets.fits meets.due, frame_eq]

/-- After any run of pushes and mixes, a mix changes nothing if the primary frame has not the format
of the mixer. If it has, the mix fails just when it comes upon a queued frame that has not. Then the
primary has received all speech ahead of that frame, and the frame is at the front; once its cue is
gone, the rest of the queue is played on from there. -/
theorem resumes_after_mismatch (stream : Stream) (gains : Gains) (ops : List Op) (frame : Frame)
    (now : Int) :
    let d := (fresh stream gains).run ops
    let ahead := Queue.ahead stream.format stream.channels d.queue.frames
    ∃ result frame' mixer queue,
      d.mixer.mix frame now d.queue = (result, frame', mixer, queue) ∧
      ((∃ fmt c found n, result = .error (.primaryFormat fmt c found n)) ↔
        ¬ frame.Fits stream.format stream.channels) ∧
      (¬ frame.Fits stream.format stream.channels →
        frame' = frame ∧ mixer = d.mixer ∧ queue = d.queue) ∧
      (∀ cue, (∃ fmt c found n, result = .error (.formatMismatch cue fmt c found n)) ↔
        frame.Fits stream.format stream.channels ∧ Mixer.due d.queue frame.timeBase now ∧
        ∃ x behind, x.cue = cue ∧ d.queue.frames = ahead ++ x :: behind ∧
          (ahead = [] ∨ Queue.count ahead < d.mixer.offset + frame.length)) ∧
      (∀ cue fmt c found n, result = .error (.formatMismatch cue fmt c found n) →
        ∃ x behind, x.cue = cue ∧ d.queue.frames = ahead ++ x :: behind ∧
          Interrupted d frame now x behind frame' mixer queue ∧
          ∀ later, Continues stream gains { mixer, queue := queue.without cue } later) ∧
      ∀ offset length, result ≠ .error (.pastFront offset length) := by
  intro d ahead
  have ready : d.Ready stream gains := ((ready_fresh stream gains).run ops).1
  clear_value d
  have settled := ready.settled
  rw [← ready.stream_eq] at settled
  obtain ⟨result, mixer, queue, e, ends, takes⟩ := Mixer.mix_ends settled frame now
  have fits_iff : d.mixer.Fits frame ↔ frame.Fits stream.format stream.channels := by
    rw [Mixer.Fits, ready.stream_eq]
  have meets_iff (x behind) : d.mixer.ComesUpon d.queue frame now x behind ↔ _ :=
    Mixer.comesUpon_iff settled
  rw [ready.stream_eq] at meets_iff
  refine ⟨result, _, mixer, queue, e, ?_, ?_, ?_, ?_, ends.ne_pastFront⟩
  · rw [ends.exists_primaryFormat_iff, fits_iff]
  · intro other
    rw [← fits_iff] at other
    have none : d.mixer.readyFor d.queue frame now = [] := if_neg fun h => other h.1
    rw [none, Frame.withSpeech_nil]
    exact ⟨rfl, ends.unchanged other⟩
  · intro cue
    rw [ends.exists_mismatch_iff cue]
    constructor
    · rintro ⟨x, behind, rfl, meets⟩
      obtain ⟨fits, due, split, short⟩ := (meets_iff x behind).mp meets
      exact ⟨fits_iff.mp fits, due, x, behind, rfl, split, short⟩
    · rintro ⟨fits, due, x, behind, rfl, split, short⟩
      exact ⟨x, behind, rfl, (meets_iff x behind).mpr ⟨fits_iff.mpr fits, due, split, short⟩⟩
  · intro cue fmt c found n failed
    obtain ⟨x, behind, rfl, meets⟩ := (ends.exists_mismatch_iff cue).mp ⟨fmt, c, found, n, failed⟩
    obtain ⟨offset, left⟩ := ends.of_comesUpon meets
    obtain ⟨-, -, split, -⟩ := (meets_iff x behind).mp meets
    refine ⟨x, behind, rfl, split,
      ready.interrupted meets rfl offset left (takes.counted ready.counted), ?_⟩
    have resumed : Ready stream gains { mixer, queue := queue.without x.cue } := by
      refine ⟨takes.stream_eq.trans ready.stream_eq, takes.gains_eq.trans ready.gains_eq, ?_, rfl⟩
      exact .inl offset
    exact resumed.continues

theorem resumes_after_mismatch_three_samples :
    let tone := Frame.mono .s16 8000 (by decide)
    let byte := Frame.mono .u8 8000 (by decide)
    let stream := (tone 0 []).stream
    let d := (fresh stream {}).run
      [.push ⟨0, tone 0 [1, 2, 3]⟩, .push ⟨1, byte 3 [4]⟩, .push ⟨2, tone 4 [5, 6]⟩]
    ∃ result frame mixer queue,
      d.mixer.mix (tone 0 [7, 7, 7, 7]) 0 d.queue = (result, frame, mixer, queue) ∧
      (∃ fmt c found n, result = .error (.formatMismatch 1 fmt c found n)) ∧
      frame.channelAs? ⟨.s16, .interleaved⟩ 1 0 = some [(8 : Int16), 9, 10, 7] ∧
      queue.frames.map (·.cue) = [1, 2] ∧
      ∀ later, Continues stream {} { mixer, queue := queue.without 1 } later := by
  intro tone byte stream d
  obtain ⟨result, frame, mixer, queue, e, -, -, fails_iff, stopped, -⟩ :=
    resumes_after_mismatch stream {}
      [.push ⟨0, tone 0 [1, 2, 3]⟩, .push ⟨1, byte 3 [4]⟩, .push ⟨2, tone 4 [5, 6]⟩]
      (tone 0 [7, 7, 7, 7]) 0
  have fails := (fails_iff 1).mpr
    ⟨by decide, by decide, ⟨1, byte 3 [4]⟩, [⟨2, tone 4 [5, 6]⟩], rfl, rfl, by decide⟩
  obtain ⟨fmt, c, found, n, failed⟩ := fails
  obtain ⟨x, behind, -, split, left, resumes⟩ := stopped 1 fmt c found n failed
  have rest : x :: behind = [⟨1, byte 3 [4]⟩, ⟨2, tone 4 [5, 6]⟩] :=
    List.append_cancel_left (split.symm.trans rfl)
  refine ⟨result, frame, mixer, queue, e, ⟨fmt, c, found, n, failed⟩, ?_, ?_, resumes⟩
  · rw [left.frame_eq]
    decide +kernel
  · rw [left.frames_eq, rest]
    rfl

end Desk

end Overdub
