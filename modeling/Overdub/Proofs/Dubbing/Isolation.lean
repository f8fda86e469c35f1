import Overdub.Proofs.Dubbing.Alike

/-!
A cue of which nothing is heard leaves no trace but its own record. Two pipelines whose tracks
differ only in such cues give the same frames back and agree, under the numbers that the cues have
in each, on their queues and on what they tell of the cues they share.
-/

namespace Overdub

def liftPlace (σ : Nat → Nat) : Nat → Nat
  | 0 => 0
  | i + 1 => σ i + 1

/-- `B` is `A` with further cues, all of them `extra`; `σ` tells where in `B` the cues of `A` are. -/
inductive Inserts (extra : Cue → Prop) : (Nat → Nat) → List Cue → List Cue → Prop
  | nil : Inserts extra id [] []
  | keep {σ : Nat → Nat} {A B : List Cue} (c : Cue) : Inserts extra σ A B →
      Inserts extra (liftPlace σ) (c :: A) (c :: B)
  | insert {σ : Nat → Nat} {A B : List Cue} {c : Cue} : extra c → Inserts extra σ A B →
      Inserts extra (fun i => σ i + 1) A (c :: B)

namespace Inserts

variable {extra : Cue → Prop} {σ : Nat → Nat} {A B : List Cue}

theorem strictMono (h : Inserts extra σ A B) : StrictMono σ := by
  induction h with
  | nil => exact strictMono_id
  | keep c _ ih =>
    rintro (_ | i) (_ | j) lt
    · cases lt
    · exact Nat.succ_pos _
    · cases lt
    · exact Nat.succ_lt_succ (ih (Nat.lt_of_succ_lt_succ lt))
  | insert _ _ ih => exact fun i j lt => Nat.succ_lt_succ (ih lt)

theorem getElem?_eq (h : Inserts extra σ A B) (i : Nat) : B[σ i]? = A[i]? := by
  induction h generalizing i with
  | nil => rfl
  | keep c _ ih =>
    cases i with
    | zero => rfl
    | succ i => exact ih i
  | insert _ _ ih => exact ih i

theorem sublist (h : Inserts extra σ A B) : A.Sublist B := by
  induction h with
  | nil => exact .slnil
  | keep c _ ih => exact ih.cons_cons c
  | insert _ _ ih => exact ih.cons _

theorem exists_of_forall (h : ∀ c ∈ B, extra c) : ∃ σ, Inserts extra σ [] B := by
  induction B with
  | nil => exact ⟨_, nil⟩
  | cons c B ih =>
    obtain ⟨σ, rest⟩ := ih fun c mem => h c (List.mem_cons_of_mem _ mem)
    exact ⟨_, insert (h c List.mem_cons_self) rest⟩

end Inserts

namespace Pipeline

variable {ρ : CueId → CueId} {p q : Pipeline} {h k : History} {v : Voice} {cue : Cue}

theorem Sound.nextId_eq (sound : p.Sound h) : p.ledger.nextId = h.spoken.length := by
  rw [← List.length_map (f := Spoken.cue), sound.cues, List.length_range]

theorem nextId_speak (sound : p.Sound h) (speaker : Speaker) (cue : Cue) :
    (p.speak speaker cue).2.ledger.nextId = p.ledger.nextId + 1 := by
  rw [(sound.speak speaker cue).nextId_eq, sound.nextId_eq, List.length_append]
  rfl

theorem nextId_mix (sound : p.Sound h) (frame : Frame) :
    (p.mix frame).2.ledger.nextId = p.ledger.nextId := by
  rw [(sound.mix frame).nextId_eq, sound.nextId_eq]

theorem span_eq_of_not_due {cues : List Cue} {now : Duration} (late : ∀ c ∈ cues, ¬ c.isDue now) :
    cues.span (·.isDue now) = ([], cues) := by
  rw [List.span_eq_takeWhile_dropWhile]
  cases cues with
  | nil => rfl
  | cons c cues =>
    have first := late c List.mem_cons_self
    rw [List.takeWhile_cons_of_neg (p := (Cue.isDue · now)) first,
      List.dropWhile_cons_of_neg (p := (Cue.isDue · now)) first]

theorem span_append (cues : List Cue) (now : Duration) :
    (cues.span (·.isDue now)).1 ++ (cues.span (·.isDue now)).2 = cues := by
  rw [List.span_eq_takeWhile_dropWhile]
  exact List.takeWhile_append_dropWhile

theorem span_cons_of_due {c : Cue} {now : Duration} (due : c.isDue now) (cues : List Cue) :
    (c :: cues).span (·.isDue now) =
      (c :: (cues.span (·.isDue now)).1, (cues.span (·.isDue now)).2) := by
  rw [List.span_eq_takeWhile_dropWhile, List.span_eq_takeWhile_dropWhile,
    List.takeWhile_cons_of_pos (p := (Cue.isDue · now)) due,
    List.dropWhile_cons_of_pos (p := (Cue.isDue · now)) due]

theorem not_due_of_sorted {c : Cue} {cues : List Cue} {now : Duration} (late : ¬ c.isDue now)
    (sorted : (c :: cues).Pairwise (·.start ≤ ·.start)) : ∀ d ∈ c :: cues, ¬ d.isDue now := by
  intro d mem due
  rcases List.mem_cons.mp mem with rfl | mem
  · exact late due
  · have le : c.start ≤ d.start := List.rel_of_pairwise_cons sorted mem
    exact late (decide_eq_true (Nat.le_trans le (of_decide_eq_true due)))

theorem speakAll_cons_of_ok {speaker : Speaker} {cue : Cue} (ok : (p.speak speaker cue).1 = none)
    (cues : List Cue) :
    p.speakAll speaker (cue :: cues) = (p.speak speaker cue).2.speakAll speaker cues := by
  rw [speakAll]
  generalize p.speak speaker cue = r at ok
  obtain ⟨_ | e, q⟩ := r
  · rfl
  · cases ok

theorem speakAll_cons_of_fault {speaker : Speaker} {cue : Cue} {e : PipelineError}
    (fault : (p.speak speaker cue).1 = some e) (cues : List Cue) :
    p.speakAll speaker (cue :: cues) = (some e, cues, (p.speak speaker cue).2) := by
  rw [speakAll]
  generalize p.speak speaker cue = r at fault
  obtain ⟨_ | e', q⟩ := r
  · cases fault
  · cases fault
    rfl

theorem speakAll_none {speaker : Speaker} {cues left : List Cue}
    (spoken : p.speakAll speaker cues = (none, left, q)) : left = [] := by
  induction cues generalizing p with
  | nil =>
    cases spoken
    rfl
  | cons cue cues ih =>
    cases fault : (p.speak speaker cue).1 with
    | none => exact ih ((speakAll_cons_of_ok fault cues).symm.trans spoken)
    | some e => cases (speakAll_cons_of_fault fault cues).symm.trans spoken

/-- The pipelines are alike, and so are the cues `A` and `B` that lie ahead of them. -/
structure Ahead (t : Target) (v : Voice) (ρ : CueId → CueId) (σ : Nat → Nat) (A B : List Cue)
    (p q : Pipeline) : Prop where
  alike : Alike ρ p q
  target_eq : p.target = t
  inserts : Inserts (t.Silent v) σ A B
  sorted : B.Pairwise (·.start ≤ ·.start)
  places : ∀ i, ρ (p.ledger.nextId + i) = q.ledger.nextId + σ i

namespace Ahead

variable {t : Target} {σ : Nat → Nat} {A B : List Cue}

theorem keep (rest : Inserts (t.Silent v) σ A B)
    (a : Ahead t v ρ (liftPlace σ) (cue :: A) (cue :: B) p q) :
    (q.speak v.speaker cue).1 = (p.speak v.speaker cue).1 ∧
      Ahead t v ρ σ A B (p.speak v.speaker cue).2 (q.speak v.speaker cue).2 := by
  obtain ⟨h, sound⟩ := a.alike.exists_sound
  obtain ⟨k, sound'⟩ := a.alike.exists_sound'
  obtain ⟨same, next⟩ := a.alike.keep (a.places 0) cue
  refine ⟨same, next, (target_speak ..).trans a.target_eq, rest, a.sorted.of_cons, ?_⟩
  intro i
  have later := a.places (i + 1)
  rw [nextId_speak sound, nextId_speak sound', Nat.add_right_comm, Nat.add_assoc, later, liftPlace,
    Nat.add_right_comm, Nat.add_assoc]

theorem insert (silent : t.Silent v cue) (rest : Inserts (t.Silent v) σ A B) (room : v.HasRoom)
    (a : Ahead t v ρ (fun i => σ i + 1) A (cue :: B) p q) :
    (q.speak v.speaker cue).1 = none ∧ Ahead t v ρ σ A B p (q.speak v.speaker cue).2 := by
  obtain ⟨k, sound'⟩ := a.alike.exists_sound'
  obtain ⟨ok, next⟩ := a.alike.insert room (a.target_eq ▸ silent)
  refine ⟨ok, next, a.target_eq, rest, a.sorted.of_cons, ?_⟩
  intro i
  rw [nextId_speak sound', a.places, Nat.add_right_comm, Nat.add_assoc]

def Speaks (t : Target) (v : Voice) (ρ : CueId → CueId) (now : Duration) (A B : List Cue)
    (p q : Pipeline) : Prop :=
  ∃ σ fault left left' p' q',
    p.speakAll v.speaker (A.span (·.isDue now)).1 = (fault, left, p') ∧
    q.speakAll v.speaker (B.span (·.isDue now)).1 = (fault, left', q') ∧
    Ahead t v ρ σ (left ++ (A.span (·.isDue now)).2) (left' ++ (B.span (·.isDue now)).2) p' q'

theorem wait (a : Ahead t v ρ σ A B p q) {now : Duration} (late : ∀ c ∈ B, ¬ c.isDue now) :
    Speaks t v ρ now A B p q := by
  have late' : ∀ c ∈ A, ¬ c.isDue now := fun c mem => late c (a.inserts.sublist.subset mem)
  unfold Speaks
  rw [span_eq_of_not_due late, span_eq_of_not_due late']
  exact ⟨σ, none, [], [], p, q, rfl, rfl, a⟩

theorem speaks (room : v.HasRoom) (now : Duration) (a : Ahead t v ρ σ A B p q) :
    Speaks t v ρ now A B p q := by
  have inserts := a.inserts
  -- Along the longer track. Where its first cue is not due, no later one of either track is.
  induction inserts generalizing p q with
  | nil => exact a.wait nofun
  | @keep τ A B c rest ih =>
    by_cases due : c.isDue now
    · obtain ⟨same, next⟩ := a.keep rest
      cases fault : (p.speak v.speaker c).1 with
      | none =>
        unfold Speaks
        rw [span_cons_of_due due, span_cons_of_due due, speakAll_cons_of_ok fault,
          speakAll_cons_of_ok (same.trans fault)]
        exact ih next
      | some e =>
        unfold Speaks
        rw [span_cons_of_due due, span_cons_of_due due, speakAll_cons_of_fault fault,
          speakAll_cons_of_fault (same.trans fault)]
        refine ⟨τ, _, _, _, _, _, rfl, rfl, ?_⟩
        dsimp only
        rw [span_append, span_append]
        exact next
    · exact a.wait (not_due_of_sorted due a.sorted)
  | @insert _ _ _ c silent rest ih =>
    by_cases due : c.isDue now
    · obtain ⟨ok, next⟩ := a.insert silent rest room
      unfold Speaks
      rw [span_cons_of_due due, speakAll_cons_of_ok ok]
      exact ih next
    · exact a.wait (not_due_of_sorted due a.sorted)

end Ahead

theorem process_of_fault {frame : Frame} {speaker : Speaker} {cues : List Cue × List Cue}
    {e : PipelineError} {left : List Cue} (due : p.due frame = cues)
    (spoken : p.speakAll speaker cues.1 = (some e, left, q)) :
    p.process speaker frame = (.error e, { q with track := ⟨left ++ cues.2⟩ }) := by
  unfold process advance
  rw [due]
  dsimp only
  rw [spoken]

theorem process_of_speakAll {frame : Frame} {speaker : Speaker} {cues : List Cue × List Cue}
    (due : p.due frame = cues) (spoken : p.speakAll speaker cues.1 = (none, [], q)) :
    p.process speaker frame = ((q.mix frame).1, { (q.mix frame).2 with track := ⟨cues.2⟩ }) := by
  unfold process advance
  rw [due]
  dsimp only
  rw [spoken]
  rfl

theorem Alike.withTrack (a : Alike ρ p q) (track track' : Subtitle.Track) :
    Alike ρ { p with track } { q with track := track' } := by
  obtain ⟨h, sound⟩ := a.exists_sound
  obtain ⟨k, sound'⟩ := a.exists_sound'
  exact ⟨⟨h, sound.withTrack track⟩, ⟨k, sound'.withTrack track'⟩, a.target_eq, a.mixer_eq,
    a.position_eq, a.queue_eq, a.ledger⟩

def InStep (t : Target) (v : Voice) (ρ : CueId → CueId) (p q : Pipeline) : Prop :=
  ∃ σ, Ahead t v ρ σ p.track.cues q.track.cues p q

namespace InStep

variable {t : Target}

theorem process (room : v.HasRoom) (frame : Frame) (a : InStep t v ρ p q) :
    (q.process v.speaker frame).1 = (p.process v.speaker frame).1 ∧
      InStep t v ρ (p.process v.speaker frame).2 (q.process v.speaker frame).2 := by
  obtain ⟨σ, a⟩ := a
  let now := frame.timeBase.toDuration (p.startOf frame)
  have due : p.due frame = p.track.cues.span (·.isDue now) := rfl
  have due' : q.due frame = q.track.cues.span (·.isDue now) := by
    unfold Pipeline.due
    rw [a.alike.startOf_eq]
  obtain ⟨τ, fault, left, left', p', q', spoken, spoken', next⟩ := a.speaks room now
  cases fault with
  | some e =>
    rw [process_of_fault due spoken, process_of_fault due' spoken']
    exact ⟨rfl, τ, next.alike.withTrack _ _, next.target_eq, next.inserts, next.sorted, next.places⟩
  | none =>
    cases speakAll_none spoken
    cases speakAll_none spoken'
    rw [process_of_speakAll due spoken, process_of_speakAll due' spoken']
    obtain ⟨h, sound⟩ := next.alike.exists_sound
    obtain ⟨k, sound'⟩ := next.alike.exists_sound'
    obtain ⟨same, alike⟩ := next.alike.mix frame
    refine ⟨same, τ, alike.withTrack _ _, (target_mix ..).trans next.target_eq, next.inserts,
      next.sorted, ?_⟩
    intro i
    dsimp only
    rw [nextId_mix sound, nextId_mix sound', next.places]

end InStep

def processAll (speaker : Speaker) : List Frame → Pipeline →
    List (Except PipelineError Frame) × Pipeline
  | [], p => ([], p)
  | frame :: frames, p =>
    let (result, p) := p.process speaker frame
    let (results, p) := processAll speaker frames p
    (result :: results, p)

theorem InStep.processAll {t : Target} (room : v.HasRoom) (frames : List Frame)
    (a : InStep t v ρ p q) :
    (q.processAll v.speaker frames).1 = (p.processAll v.speaker frames).1 ∧
      InStep t v ρ (p.processAll v.speaker frames).2 (q.processAll v.speaker frames).2 := by
  induction frames generalizing p q with
  | nil => exact ⟨rfl, a⟩
  | cons frame frames ih =>
    obtain ⟨first, next⟩ := a.process room frame
    obtain ⟨rest, last⟩ := ih next
    exact ⟨congrArg₂ List.cons first rest, last⟩

theorem start?_withTrack {t : Target} {gains : Gains} {track : Subtitle.Track}
    (started : start? t gains track = .ok p) (track' : Subtitle.Track) :
    start? t gains track' = .ok { p with track := track' } := by
  have eq := eq_of_start? started
  unfold start? at started ⊢
  cases hs : t.stream.check with
  | error e =>
    rw [hs] at started
    cases started
  | ok =>
    rw [eq]
    rfl

structure Idle (t : Target) (p : Pipeline) : Prop where
  exists_sound : ∃ h, p.Sound h
  target_eq : p.target = t
  track_eq : p.track.cues = []
  queue_eq : p.queue.frames = []

/-- What comes of a frame over which nothing is laid. -/
def untouched (t : Target) (frame : Frame) : Except PipelineError Frame :=
  if frame.Fits t.stream.format t.stream.channels then .ok frame
  else .error (.mix (wrongFormat t frame))

theorem Sound.mix_of_empty (sound : p.Sound h) (empty : p.queue.frames = []) (frame : Frame) :
    (p.mix frame).1 = untouched p.target frame ∧ (p.mix frame).2.queue.frames = [] := by
  unfold untouched
  by_cases hf : frame.Fits p.target.stream.format p.target.stream.channels
  · have silent : ¬ Mixer.due p.queue frame.timeBase (p.startOf frame) := by
      rw [Mixer.due_iff, Queue.front?, empty]
      exact nofun
    have fits : p.mixer.Fits frame := by
      rw [Mixer.Fits, sound.stream_eq]
      exact hf
    unfold Pipeline.mix
    rw [Mixer.mix_of_not_due fits silent, if_pos hf]
    exact ⟨rfl, empty⟩
  · rw [(mix_of_not_fits sound hf).1, if_neg hf]
    exact ⟨rfl, empty⟩

namespace Idle

variable {t : Target}

theorem start {gains : Gains} (started : start? t gains ⟨[]⟩ = .ok p) : Idle t p := by
  refine ⟨⟨_, .start started⟩, ?_, ?_, ?_⟩ <;> rw [eq_of_start? started]

theorem mix (i : Idle t p) (frame : Frame) :
    (p.mix frame).1 = untouched t frame ∧ (p.mix frame).2.queue.frames = [] := by
  obtain ⟨h, sound⟩ := i.exists_sound
  rw [← i.target_eq]
  exact sound.mix_of_empty i.queue_eq frame

theorem process (i : Idle t p) (speaker : Speaker) (frame : Frame) :
    (p.process speaker frame).1 = untouched t frame ∧ Idle t (p.process speaker frame).2 := by
  obtain ⟨h, sound⟩ := i.exists_sound
  obtain ⟨same, queue⟩ := i.mix frame
  have due : p.due frame = ([], []) := by
    rw [Pipeline.due, i.track_eq]
    rfl
  rw [process_of_speakAll due rfl]
  exact ⟨same, ⟨_, (sound.mix frame).withTrack _⟩, (target_mix ..).trans i.target_eq, rfl, queue⟩

theorem processAll (i : Idle t p) (speaker : Speaker) (frames : List Frame) :
    (p.processAll speaker frames).1 = frames.map (untouched t) := by
  induction frames generalizing p with
  | nil => rfl
  | cons frame frames ih =>
    obtain ⟨first, next⟩ := i.process speaker frame
    exact congrArg₂ List.cons first (ih next)

end Idle

namespace InStep

variable {t : Target}

theorem start {gains : Gains} {A B : List Cue} {σ : Nat → Nat} (inserts : Inserts (t.Silent v) σ A B)
    (sorted : B.Pairwise (·.start ≤ ·.start)) (started : start? t gains ⟨A⟩ = .ok p)
    (started' : start? t gains ⟨B⟩ = .ok q) : InStep t v σ p q := by
  have alike := Alike.start started started' (ρ := σ)
  rw [eq_of_start? started, eq_of_start? started'] at alike ⊢
  refine ⟨σ, alike, rfl, inserts, sorted, ?_⟩
  intro i
  simp

theorem find?_eq (a : InStep t v ρ p q) (x : CueId) :
    q.ledger.find? (ρ x) = (p.ledger.find? x).map (·.renumber ρ) := by
  obtain ⟨σ, a⟩ := a
  obtain ⟨h, sound⟩ := a.alike.exists_sound
  obtain ⟨k, sound'⟩ := a.alike.exists_sound'
  by_cases known : x < p.ledger.nextId
  · exact a.alike.ledger.find?_eq x known
  · have later : p.ledger.nextId ≤ x := Nat.not_lt.mp known
    have later' : q.ledger.nextId ≤ ρ x := by
      have place := a.places (x - p.ledger.nextId)
      rw [Nat.add_sub_cancel' later] at place
      exact place ▸ Nat.le_add_right ..
    rw [sound.tallied.find?_eq_none later, sound'.tallied.find?_eq_none later']
    rfl

end InStep

/-- Cues of which nothing is heard, put anywhere into a track, change neither the frames that are
given back nor the queue nor what is told of the other cues. With such cues alone, every frame is
given back as it came. -/
theorem silent_cues_change_nothing {t : Target} {gains : Gains} {v : Voice} (room : v.HasRoom)
    {σ : Nat → Nat} {A B : List Cue} (inserts : Inserts (t.Silent v) σ A B)
    (sorted : B.Pairwise (·.start ≤ ·.start)) {p q : Pipeline}
    (start : start? t gains ⟨A⟩ = .ok p) (start' : start? t gains ⟨B⟩ = .ok q)
    (frames : List Frame) :
    let r := p.processAll v.speaker frames
    let r' := q.processAll v.speaker frames
    StrictMono σ ∧ (∀ x, B[σ x]? = A[x]?) ∧
    r'.1 = r.1 ∧
    r'.2.queue = r.2.queue.renumber σ ∧ r'.2.mixer.offset = r.2.mixer.offset ∧
    r'.2.ledger.totals.mixed = r.2.ledger.totals.mixed ∧
    r'.2.ledger.totals.retired = r.2.ledger.totals.retired ∧
    r'.2.ledger.totals.frames = r.2.ledger.totals.frames ∧
    (∀ x, r'.2.ledger.find? (σ x) = (r.2.ledger.find? x).map (·.renumber σ)) ∧
    ((∀ c ∈ A, t.Silent v c) → r.1 = frames.map (untouched t)) := by
  obtain ⟨same, last⟩ := (InStep.start inserts sorted start start').processAll room frames
  obtain ⟨_, ahead⟩ := id last
  have alike := ahead.alike
  refine ⟨inserts.strictMono, inserts.getElem?_eq, same, alike.queue_eq,
    congrArg Mixer.offset alike.mixer_eq, alike.ledger.mixed_eq, alike.ledger.retired_eq,
    alike.ledger.frames_eq, last.find?_eq, ?_⟩
  intro silent
  obtain ⟨τ, all⟩ := Inserts.exists_of_forall silent
  have none := start?_withTrack start ⟨[]⟩
  have step := InStep.start all (sorted.sublist inserts.sublist) none start
  exact (step.processAll room frames).1.trans ((Idle.start none).processAll v.speaker frames)

theorem silent_cues_change_nothing_three_samples :
    let frame := Frame.mono .f32 48000 (by decide) 0 [⟨0⟩, ⟨0⟩]
    let v : Voice := fun text =>
      if text = "a" then Speaker.steady 3 ⟨0x3f000000⟩ 0 text else .error (.audio .noRate)
    let heard : Cue := ⟨"a", ⟨0⟩, ⟨1⟩⟩
    let unanswered : Cue := ⟨"b", ⟨0⟩, ⟨1⟩⟩
    let wordless : Cue := ⟨" ", ⟨5⟩, ⟨1⟩⟩
    let p := single frame
    let q := { p with track := ⟨[unanswered, heard, wordless]⟩ }
    (q.processAll v.speaker [frame, frame]).1 = (p.processAll v.speaker [frame, frame]).1 ∧
      (q.processAll v.speaker [frame, frame]).2.ledger.totals.mixed = 3 ∧
      ((q.processAll v.speaker [frame, frame]).2.ledger.find? 1).map (·.state) = some .retired := by
  intro frame v heard unanswered wordless p q
  have room : v.HasRoom := by
    intro text u spoken
    unfold v at spoken
    split at spoken
    · cases spoken
      exact nofun
    · cases spoken
  have inserts : Inserts (p.target.Silent v) _ [heard] [unanswered, heard, wordless] :=
    .insert (.unreachable rfl) (.keep heard (.insert (.blank (by decide)) .nil))
  have sorted : [unanswered, heard, wordless].Pairwise (·.start ≤ ·.start) := by decide
  have start : start? p.target {} ⟨[heard]⟩ = .ok p := rfl
  have start' : start? p.target {} ⟨[unanswered, heard, wordless]⟩ = .ok q := rfl
  have three : (p.processAll v.speaker [frame, frame]).2.ledger.totals.mixed = 3 := by decide +kernel
  have ended : ((p.processAll v.speaker [frame, frame]).2.ledger.find? 0).map (·.state) =
      some .retired := by decide +kernel
  obtain ⟨_, _, same, _, _, mixed, _, _, told, _⟩ :=
    silent_cues_change_nothing room inserts sorted start start' [frame, frame]
  refine ⟨same, mixed.trans three, ?_⟩
  have second : (q.processAll v.speaker [frame, frame]).2.ledger.find? 1 = _ := told 0
  rw [second, ← ended, Option.map_map]
  rfl

end Pipeline

end Overdub
