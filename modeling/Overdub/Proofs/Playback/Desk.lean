import Overdub.Proofs.Playback.Mix

/-!
A mixer and a queue over a run of pushes and mixes. As long as all frames have the format of the
mixer, what is pending is what was pushed less what was mixed.
-/

namespace Overdub

structure Desk where
  mixer : Mixer
  queue : Queue := {}
  mixed : Nat := 0

namespace Desk

inductive Op
  | push (f : QueuedFrame)
  | mix (frame : Frame) (now : Int)

def Op.frame : Op → Frame
  | push f => f.frame
  | mix frame _ => frame

def Op.pushed : Op → List QueuedFrame
  | push f => [f]
  | mix .. => []

def fresh (stream : Stream) (gains : Gains) : Desk := { mixer := { stream, gains } }

def step (d : Desk) : Op → Desk
  | .push f => { d with queue := d.queue.push f }
  | .mix frame now =>
    let (result, _, mixer, queue) := d.mixer.mix frame now d.queue
    let mixed := match result with
      | .ok o => o.mixed
      | .error _ => 0
    ⟨mixer, queue, d.mixed + mixed⟩

def run (d : Desk) (ops : List Op) : Desk := ops.foldl step d

/-- What holds after every run over frames of one format, of which `pushed` were queued. -/
structure Sound (stream : Stream) (gains : Gains) (pushed : List QueuedFrame) (d : Desk) : Prop where
  stream_eq : d.mixer.stream = stream
  gains_eq : d.mixer.gains = gains
  fits : ∀ f ∈ d.queue.frames, f.frame.Fits stream.format stream.channels
  within : Queue.Within d.mixer.offset d.queue.frames
  counted : d.queue.Counted
  mixed_le : d.mixed ≤ (Queue.speech stream.format stream.channels pushed).length
  pending : (Queue.speech stream.format stream.channels d.queue.frames).drop d.mixer.offset =
    (Queue.speech stream.format stream.channels pushed).drop d.mixed

variable {stream : Stream} {gains : Gains} {pushed : List QueuedFrame} {d : Desk}

theorem sound_fresh (stream : Stream) (gains : Gains) : (fresh stream gains).Sound stream gains [] where
  stream_eq := rfl
  gains_eq := rfl
  fits := by intro f h; cases h
  within := .inl rfl
  counted := rfl
  mixed_le := Nat.le_refl 0
  pending := rfl

theorem Sound.push (h : d.Sound stream gains pushed) {f : QueuedFrame}
    (hf : f.frame.Fits stream.format stream.channels) :
    (d.step (.push f)).Sound stream gains (pushed ++ [f]) where
  stream_eq := h.stream_eq
  gains_eq := h.gains_eq
  fits := by
    intro f' mem
    rcases List.mem_append.mp mem with mem | mem
    · exact h.fits f' mem
    · cases List.mem_singleton.mp mem
      exact hf
  within := h.within.append [f]
  counted := h.counted.push f
  mixed_le := by
    rw [Queue.speech_append, List.length_append]
    exact Nat.le_add_right_of_le h.mixed_le
  pending := by
    change (Queue.speech _ _ (d.queue.frames ++ [f])).drop d.mixer.offset =
      (Queue.speech _ _ (pushed ++ [f])).drop d.mixed
    have below := h.within.le_count
    rw [← Queue.length_speech h.fits] at below
    rw [Queue.speech_append, Queue.speech_append, List.drop_append_of_le_length h.mixed_le,
      List.drop_append_of_le_length below, h.pending]

theorem Sound.mix (h : d.Sound stream gains pushed) {frame : Frame}
    (hf : frame.Fits stream.format stream.channels) (now : Int) :
    (d.step (.mix frame now)).Sound stream gains pushed := by
  obtain ⟨m, q, mixed⟩ := d
  obtain ⟨rfl, rfl, fits, within, counted, mixed_le, pending⟩ := h
  dsimp only at *
  by_cases due : Mixer.due q frame.timeBase now
  · obtain ⟨o, slices, n, r, e, laid⟩ := Mixer.mix_of_due hf fits within due
    obtain ⟨count, flow⟩ : o.mixed = min frame.length _ ∧ _ = _ :=
      ⟨laid.mixed_eq, laid.pending_eq⟩
    -- `Laid` reads the queue in the format of the primary, which is that of the mixer.
    unfold Mixer.pendingFor at count flow
    rw [hf.1, hf.2, pending] at count flow
    obtain ⟨used, split, _⟩ := laid.exists_retired
    rw [step, e]
    refine ⟨laid.stream_eq, laid.gains_eq, ?_, laid.within, laid.counted counted, ?_, ?_⟩
    · intro f mem
      exact fits f (split ▸ List.mem_append_right _ mem)
    · rw [List.length_drop] at count
      dsimp only
      omega
    · rw [flow, List.drop_drop]
  · rw [step, Mixer.mix_of_not_due hf due]
    exact ⟨rfl, rfl, fits, within, counted, mixed_le, pending⟩

theorem Sound.run (h : d.Sound stream gains pushed) {ops : List Op}
    (hops : ∀ op ∈ ops, op.frame.Fits stream.format stream.channels) :
    (d.run ops).Sound stream gains (pushed ++ ops.flatMap Op.pushed) := by
  induction ops generalizing d pushed with
  | nil =>
    rw [List.flatMap_nil, List.append_nil]
    exact h
  | cons op ops ih =>
    have fits := hops op List.mem_cons_self
    have rest := fun op mem => hops op (List.mem_cons_of_mem _ mem)
    rw [List.flatMap_cons, ← List.append_assoc]
    cases op with
    | push f => exact ih (h.push fits) rest
    | mix frame now =>
      rw [Op.pushed, List.append_nil]
      exact ih (h.mix fits now) rest

end Desk

end Overdub
