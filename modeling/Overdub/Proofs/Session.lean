import Overdub.Proofs.Dubbing.Quiet
import Overdub.Proofs.Wave.Content
import Overdub.Session

/-!
A run without speech. Where no cue queues a frame, the file that is written holds the scalars of the
file that was read, all of them and in order.
-/

namespace Overdub

open Wave (Coding Content)

namespace Session

variable {s t : Session} {speaker : Speaker} {frame : Frame} {h : History}

theorem run_of_error {e : RunError} (fault : s.next = .error e) :
    s.run speaker = (.error e, s) := by
  rw [run]
  grind

theorem run_of_end (done : s.next = .ok (none, t)) : s.run speaker = (.ok (), t) := by
  rw [run]
  grind

theorem run_of_frame (more : s.next = .ok (some frame, t)) :
    s.run speaker = match t.dub speaker frame with
      | (.error e, u) => (.error e, u)
      | (.ok (), u) => u.run speaker := by
  rw [run]
  grind

theorem next_of_done (sized : s.reader.Sized) (done : s.reader.left = 0) :
    s.next = .ok (none, s) := by
  unfold next
  rw [Wave.Reader.next_of_done sized done]

theorem pipeline_next {found : Option Frame} (read : s.next = .ok (found, t)) :
    t.pipeline = s.pipeline ∧ t.writer = s.writer := by
  unfold next at read
  split at read
  · cases read
  · cases read
    exact ⟨rfl, rfl⟩

theorem pipeline_dub (s : Session) (speaker : Speaker) (frame : Frame) :
    (s.dub speaker frame).2.pipeline = (s.pipeline.process speaker frame).2 := by
  unfold dub
  dsimp only
  split
  · rfl
  · split <;> rfl

theorem dub_grows (sound : s.pipeline.Sound h) (speaker : Speaker) (frame : Frame) :
    s.pipeline.ledger.queued <+: (s.dub speaker frame).2.pipeline.ledger.queued ∧
      ∃ k, (s.dub speaker frame).2.pipeline.Sound k := by
  rw [pipeline_dub]
  exact ⟨sound.process_grows speaker frame, _, (sound.advance speaker _ frame).withTrack _⟩

theorem run_of_unknown (speaker : Speaker) (size : 0 < s.reader.frameSize)
    (sized : s.reader.Sized) (unknown : s.reader.coding = none) :
    if s.reader.left = 0 then s.run speaker = (.ok (), s)
    else s.run speaker = (.error (.wave (.file .unsupported)), s) := by
  split
  · next done => exact run_of_end (next_of_done sized done)
  · next more =>
    apply run_of_error
    unfold next
    rw [Wave.Reader.next_of_unknown sized (Wave.Reader.count_ne_zero size more) unknown]

theorem run_of_large (speaker : Speaker) (large : ¬ s.reader.Sized) :
    s.run speaker = (.error (.wave .overflow), s) := by
  apply run_of_error
  unfold next
  rw [Wave.Reader.next_of_large large]

theorem run_grows (sound : s.pipeline.Sound h) :
    s.pipeline.ledger.queued <+: (s.run speaker).2.pipeline.ledger.queued := by
  fun_induction run speaker s generalizing h with
  | case1 => exact List.prefix_rfl
  | case2 s t done =>
    exact (pipeline_next done).1 ▸ List.prefix_rfl
  | case3 s frame t more e u dubbed =>
    rw [← (pipeline_next more).1] at sound ⊢
    have one := (dub_grows sound speaker frame).1
    rwa [dubbed] at one
  | case4 s frame t more u dubbed ih =>
    rw [← (pipeline_next more).1] at sound ⊢
    obtain ⟨one, _, next⟩ := dub_grows sound speaker frame
    rw [dubbed] at one next
    exact one.trans (ih next)

theorem process_grows (sound : s.pipeline.Sound h) {reader : Wave.Reader}
    (read : s.next = .ok (some frame, { s with reader })) :
    (s.pipeline.process speaker frame).2.ledger.queued <+:
      (s.run speaker).2.pipeline.ledger.queued := by
  obtain ⟨_, k, next⟩ := dub_grows (s := { s with reader }) sound speaker frame
  have dubbed := pipeline_dub { s with reader } speaker frame
  rw [run_of_frame read]
  generalize dub speaker _ frame = r at next dubbed
  obtain ⟨_ | _, u⟩ := r
  · exact dubbed ▸ List.prefix_rfl
  · exact dubbed ▸ run_grows next

theorem run_of_process_error {reader : Wave.Reader}
    (read : s.next = .ok (some frame, { s with reader })) {e : PipelineError}
    (fault : (s.pipeline.process speaker frame).1 = .error e) :
    (s.run speaker).1 = .error (.pipeline e) := by
  rw [run_of_frame read]
  unfold dub
  dsimp only
  rw [fault]

def HasRoom (result : Except RunError Unit) : Prop :=
  ∀ cause : GenerationError, cause.isFatal → result ≠ .error (.pipeline (.generation cause))

theorem HasRoom.process (room : HasRoom (s.run speaker).1) {reader : Wave.Reader}
    (read : s.next = .ok (some frame, { s with reader })) :
    Pipeline.hasRoom (s.pipeline.process speaker frame).1 := by
  unfold Pipeline.hasRoom
  split
  · next cause fault =>
    have mild : ¬ cause.isFatal := fun fatal => room cause fatal (run_of_process_error read fault)
    simpa using mild
  · rfl

/-- On the way through a file whose scalars are coded as `c`, with nothing waiting to be mixed. -/
structure Copies (c : Coding) (s : Session) : Prop where
  coding_eq : s.reader.coding = some c
  kind_eq : c.kind = s.reader.stream.format.kind
  frameSize_pos : 0 < s.reader.frameSize
  sized : s.reader.Sized
  writes : Coding.of? s.writer.spec.bits s.writer.spec.float s.writer.spec.width = some c.bare
  channels_eq : s.writer.spec.channels = s.reader.stream.channels
  exists_vacant : ∃ t, s.pipeline.Vacant t ∧ t.stream = s.reader.stream

namespace Copies

variable {c : Coding}

theorem start {header : Wave.Header} {frameSize : Nat} {reader : Wave.Reader} {pipeline : Pipeline}
    (opens : Wave.Reader.Opens header frameSize reader) (sized : reader.Sized)
    (coding : reader.coding = some c) {target : Target} {gains : Gains} {track : Subtitle.Track}
    (stream : target.stream = reader.stream)
    (started : Pipeline.start? target gains track = .ok pipeline) :
    Copies c ⟨reader, { spec := reader.spec }, pipeline⟩ where
  coding_eq := coding
  kind_eq := Wave.Spec.kind_of_kind? (opens.spec_eq ▸ opens.kind_eq) (opens.of?_eq coding)
  frameSize_pos := opens.frameSize_eq ▸ opens.frameSize_pos
  sized := sized
  writes := Coding.of?_bare (opens.of?_eq coding)
  channels_eq := opens.channels_eq
  exists_vacant := ⟨target, .start started, stream⟩

theorem count_ne_zero (copies : Copies c s) (more : s.reader.left ≠ 0) : s.reader.count ≠ 0 :=
  Wave.Reader.count_ne_zero copies.frameSize_pos more

theorem exists_dub (copies : Copies c s)
    (there : s.reader.count * s.reader.stream.channels * c.width ≤ s.reader.data.length)
    (room : Pipeline.hasRoom (s.pipeline.process speaker (s.reader.front c copies.kind_eq)).1)
    (quiet : (s.pipeline.process speaker (s.reader.front c copies.kind_eq)).2.ledger.Quiet) :
    ∃ u, dub speaker { s with reader := s.reader.after c } (s.reader.front c copies.kind_eq) =
        (.ok (), u) ∧
      Copies c u ∧ u.reader = s.reader.after c ∧ u.writer.spec = s.writer.spec ∧
      u.writer.written =
        s.writer.written ++ (c.scalars (s.reader.bytes c)).flatMap c.bare.encode := by
  obtain ⟨t, vacant, stream⟩ := copies.exists_vacant
  obtain ⟨same, next⟩ := vacant.process room quiet
  have content := (Wave.Reader.content_front copies.kind_eq there).trans (c.content_eq _)
  have written := Wave.Writer.write_of_content copies.channels_eq copies.writes content
  have fits : (s.reader.front c copies.kind_eq).Fits t.stream.format t.stream.channels := by
    rw [stream]
    exact ⟨rfl, rfl⟩
  rw [Pipeline.untouched, if_pos fits] at same
  unfold dub
  dsimp only
  generalize s.pipeline.process speaker _ = r at same next
  obtain ⟨result, p⟩ := r
  dsimp only at same next ⊢
  rw [same]
  dsimp only
  rw [written]
  exact ⟨_, rfl, ⟨copies.coding_eq, copies.kind_eq, copies.frameSize_pos, copies.sized,
    copies.writes, copies.channels_eq, t, next, stream⟩, rfl, rfl, Wave.Writer.written_cons ..⟩

theorem exists_run (copies : Copies c s) (more : s.reader.left ≠ 0)
    (there : s.reader.count * s.reader.stream.channels * c.width ≤ s.reader.data.length)
    (room : HasRoom (s.run speaker).1)
    (quiet : (s.run speaker).2.pipeline.ledger.Quiet) :
    ∃ u, s.run speaker = u.run speaker ∧ Copies c u ∧ u.reader = s.reader.after c ∧
      u.writer.spec = s.writer.spec ∧
      u.writer.written =
        s.writer.written ++ (c.scalars (s.reader.bytes c)).flatMap c.bare.encode := by
  have read : s.next =
      .ok (some (s.reader.front c copies.kind_eq), { s with reader := s.reader.after c }) := by
    unfold next
    rw [Wave.Reader.next_eq copies.sized (copies.count_ne_zero more) copies.coding_eq
      copies.kind_eq, if_neg (Nat.not_lt.mpr there)]
  obtain ⟨t, vacant, -⟩ := copies.exists_vacant
  obtain ⟨h, sound⟩ := vacant.exists_sound
  have quiet := quiet.of_prefix (process_grows sound read)
  obtain ⟨u, dubbed, step⟩ := copies.exists_dub there (room.process read) quiet
  refine ⟨u, ?_, step⟩
  rw [run_of_frame read, dubbed]

theorem run {s : Session} (copies : Copies c s)
    (room : HasRoom (s.run speaker).1)
    (quiet : (s.run speaker).2.pipeline.ledger.Quiet) :
    if s.reader.Whole c then
      (s.run speaker).1 = .ok () ∧ (s.run speaker).2.writer.spec = s.writer.spec ∧
        (s.run speaker).2.writer.written =
          s.writer.written ++ (c.scalars (s.reader.rest c)).flatMap c.bare.encode
    else (s.run speaker).1 = .error (.wave (.file .short)) := by
  by_cases done : s.reader.left = 0
  · have nothing : s.reader.rest c = [] := by
      unfold Wave.Reader.rest
      rw [done, Nat.zero_mul, Nat.zero_mul]
      rfl
    rw [if_pos (by simp [done]), run_of_end (next_of_done copies.sized done), nothing,
      c.scalars_nil]
    exact ⟨rfl, rfl, (List.append_nil _).symm⟩
  by_cases there : s.reader.count * s.reader.stream.channels * c.width ≤ s.reader.data.length
  · obtain ⟨u, same, next, reader, spec, written⟩ := copies.exists_run done there room quiet
    have shorter : u.reader.left < s.reader.left := by
      have := copies.count_ne_zero done
      rw [reader]
      change s.reader.left - s.reader.count < _
      omega
    rw [same] at room quiet ⊢
    have rest := next.run room quiet
    rw [reader, spec, written] at rest
    simp only [Wave.Reader.whole_after there] at rest
    rw [s.reader.rest_eq, c.scalars_append_of_length (Wave.Reader.length_bytes there),
      List.flatMap_append, ← List.append_assoc]
    exact rest
  · have fault : s.next = .error (.wave (.file .short)) := by
      unfold next
      rw [Wave.Reader.next_eq copies.sized (copies.count_ne_zero done) copies.coding_eq
        copies.kind_eq, if_pos (Nat.lt_of_not_le there)]
    have cut : ¬ s.reader.Whole c := by
      have := s.reader.size_eq c
      unfold Wave.Reader.Whole
      omega
    rw [if_neg cut, run_of_error fault]
termination_by s.reader.left

end Copies

/-- Where no cue queues a frame, the run ends well, and the file that is written holds the scalars
of the file that was read, under the same format, in the same bytes less the padding of a sample.
What stops the run is a frame too large to be counted, or a file that cannot be read to its end
unless it has no samples. -/
theorem copies_without_speech {path : String} {file : Option (List UInt8)} {frameSize : Nat}
    {reader : Wave.Reader} (opened : Wave.Reader.start? path file frameSize = .ok reader)
    (speeds : SpeedRange) (server : String) (gains : Gains) (track : Subtitle.Track) :
    ∃ writer pipeline,
      Wave.Writer.start? reader.spec = .ok writer ∧
      Pipeline.start? ⟨reader.stream, reader.timeBase, speeds, server⟩ gains track = .ok pipeline ∧
      ∀ speaker,
        let dubbed := run speaker ⟨reader, writer, pipeline⟩
        HasRoom dubbed.1 → dubbed.2.pipeline.ledger.Quiet →
        if frameSize * reader.stream.channels < 2 ^ 64 then
          match reader.content? with
          | some content =>
            dubbed.1 = .ok () ∧
            (∀ c ∈ reader.coding, dubbed.2.writer.written = c.packed (reader.rest c)) ∧
            ∀ path frameSize, 0 < frameSize → ∃ copy,
              Wave.Reader.start? path (some dubbed.2.writer.finish) frameSize = .ok copy ∧
              copy.spec = reader.spec ∧ copy.stream = reader.stream ∧
              copy.content? = some content
          | none =>
            if reader.left = 0 then dubbed.1 = .ok () ∧ dubbed.2.writer = writer
            else ∃ e, dubbed.1 = .error (.wave (.file e))
        else dubbed.1 = .error (.wave .overflow) ∧ dubbed.2.writer = writer := by
  obtain ⟨bytes, header, -, read, opens⟩ := Wave.Reader.exists_opens opened
  obtain ⟨fits, size, -⟩ := Wave.Header.read_fits read
  obtain ⟨pipeline, started⟩ := Pipeline.exists_start?
    ⟨reader.stream, reader.timeBase, speeds, server⟩ reader.rate_ne
    (Nat.ne_of_gt reader.channels_pos) gains track
  refine ⟨{ spec := reader.spec }, pipeline, opens.start?_writer, started, ?_⟩
  intro speaker dubbed room quiet
  rw [← opens.frameSize_eq]
  by_cases sized : reader.Sized
  case neg =>
    have stops := run_of_large (s := ⟨reader, { spec := reader.spec }, pipeline⟩) speaker sized
    unfold dubbed
    rw [if_neg sized, stops]
    exact ⟨rfl, rfl⟩
  rw [if_pos sized]
  cases coding : reader.coding with
  | none =>
    have size_pos : 0 < reader.frameSize := opens.frameSize_eq ▸ opens.frameSize_pos
    have stops := run_of_unknown (s := ⟨reader, { spec := reader.spec }, pipeline⟩) speaker
      size_pos sized coding
    rw [Wave.Reader.content?_of_none coding]
    unfold dubbed
    dsimp only at stops ⊢
    split at stops
    · next done =>
      rw [if_pos done, stops]
      exact ⟨rfl, rfl⟩
    · next more =>
      rw [if_neg more, stops]
      exact ⟨_, rfl⟩
  | some c =>
    have done := (Copies.start opens sized coding rfl started).run room quiet
    rw [Wave.Reader.content?_of_some coding]
    by_cases whole : reader.Whole c
    · rw [if_pos whole] at done ⊢
      obtain ⟨ok, spec, written⟩ := done
      refine ⟨ok, ?_, ?_⟩
      · intro c' same
        cases same
        exact written.trans (c.flatMap_scalars _)
      · intro path frameSize pos
        exact opens.exists_copy fits size coding whole spec written path pos
    · rw [if_neg whole] at done ⊢
      have more : reader.left ≠ 0 := fun none => whole (by simp [none])
      exact if_neg more ▸ ⟨_, done⟩

theorem copies_without_speech_three_samples :
    let w : Wave.Writer := {
      spec := ⟨2, 48000, 24, false⟩
      data := [[1, 2, 3, 255, 255, 255, 0, 0, 128, 4, 5, 6, 7, 8, 9, 0, 0, 0]] }
    let reader : Wave.Reader := {
      spec := w.spec
      stream := ⟨48000, 2, ⟨.s32, .interleaved⟩⟩
      coding := some (.s24 false)
      frameSize := 2
      left := 3
      data := w.written
      rate_ne := by decide
      channels_pos := by decide }
    let scalars : List Int32 := [50462976, -256, -2147483648, 100992000, 151521024, 0]
    let track : Subtitle.Track := ⟨[⟨"a", ⟨0⟩, ⟨1⟩⟩]⟩
    let speaker : Speaker := fun _ _ => .error (.audio .noRate)
    Wave.Reader.start? "in" (some w.finish) 2 = .ok reader ∧
    ∃ writer pipeline,
      Wave.Writer.start? reader.spec = .ok writer ∧
      Pipeline.start? ⟨reader.stream, reader.timeBase, {}, ""⟩ {} track = .ok pipeline ∧
      (run speaker ⟨reader, writer, pipeline⟩).1 = .ok () ∧
      (run speaker ⟨reader, writer, pipeline⟩).2.pipeline.ledger.totals.discarded = 1 ∧
      ∃ copy, Wave.Reader.start? "out"
          (some (run speaker ⟨reader, writer, pipeline⟩).2.writer.finish) 1 = .ok copy ∧
        copy.content? = some ⟨.s32, scalars⟩ := by
  intro w reader scalars track speaker
  have writable : Wave.Writer.Writable w.spec := by
    refine Wave.Writer.writable_of_kind? (k := .s32) rfl ⟨?_, ?_, ?_, ?_⟩ <;> decide
  have opened : Wave.Reader.start? "in" (some w.finish) 2 = .ok reader := by
    have kind : w.spec.kind? = some .s32 := rfl
    have coding : Coding.of? w.spec.bits w.spec.float w.spec.width = some (.s24 false) := by decide
    have left : w.written.length / w.spec.width / w.spec.channels = 3 := by decide
    unfold Wave.Reader.start?
    simp only [Wave.Writer.read_finish writable (by decide) (by decide), kind]
    rw [dif_neg (by decide), dif_neg (by decide), if_neg (by decide), coding, left]
  obtain ⟨writer, pipeline, created, started, copies⟩ :=
    copies_without_speech opened {} "" {} track
  refine ⟨opened, writer, pipeline, created, started, ?_⟩
  cases created
  cases Pipeline.eq_of_start? started
  have content : reader.content? = some ⟨.s32, scalars⟩ := by decide +kernel
  generalize done : run speaker ⟨reader, _, _⟩ = dubbed
  have quiet : dubbed.2.pipeline.ledger.Quiet := by
    unfold Ledger.Quiet
    rw [← done]
    decide +kernel
  have discarded : dubbed.2.pipeline.ledger.totals.discarded = 1 := by
    rw [← done]
    decide +kernel
  have well : dubbed.1.toBool := by
    rw [← done]
    decide +kernel
  have room : HasRoom dubbed.1 := by
    intro cause fatal lost
    rw [lost] at well
    cases well
  have copied := copies speaker
  rw [content, done] at copied
  have sized : 2 * reader.stream.channels < 2 ^ 64 := by decide
  replace copied := copied room quiet
  rw [if_pos sized] at copied
  obtain ⟨ok, -, copies⟩ := copied
  obtain ⟨copy, started, -, -, same⟩ := copies "out" 1 Nat.one_pos
  exact ⟨ok, discarded, copy, started, same⟩

/-- A frame of 2^62 samples on four channels has more scalars than can be counted. -/
theorem stops_at_a_large_frame :
    let w : Wave.Writer := {
      spec := ⟨4, 8000, 16, false⟩
      data := [[1, 0, 2, 0, 3, 0, 4, 0]] }
    let speaker : Speaker := fun _ _ => .error (.audio .noRate)
    let scalars : List Int16 := [1, 2, 3, 4]
    ∃ reader writer pipeline,
      Wave.Reader.start? "in" (some w.finish) (2 ^ 62) = .ok reader ∧
      reader.content? = some ⟨.s16, scalars⟩ ∧
      Wave.Writer.start? reader.spec = .ok writer ∧
      Pipeline.start? ⟨reader.stream, reader.timeBase, {}, ""⟩ {} ⟨[]⟩ = .ok pipeline ∧
      (run speaker ⟨reader, writer, pipeline⟩).1 = .error (.wave .overflow) := by
  intro w speaker scalars
  have writable : Wave.Writer.Writable w.spec := by
    refine Wave.Writer.writable_of_kind? (k := .s16) rfl ⟨?_, ?_, ?_, ?_⟩ <;> decide
  have coding : Coding.of? w.spec.bits w.spec.float w.spec.width = some .s16 := by decide
  have decodes : Coding.s16.decodeAll (scalars.flatMap Coding.s16.encode) = scalars :=
    Coding.decodeAll_flatMap (c := .s16) nofun fun _ _ => trivial
  obtain ⟨reader, opened, -, stream, content⟩ := Wave.Reader.exists_start?_finish writable
    (by decide) (k := .s16) rfl coding (n := 1) rfl (by decide) decodes (by decide) "in"
    (Nat.two_pow_pos 62)
  obtain ⟨_, _, -, -, opens⟩ := Wave.Reader.exists_opens opened
  obtain ⟨pipeline, started⟩ := Pipeline.exists_start?
    ⟨reader.stream, reader.timeBase, {}, ""⟩ reader.rate_ne
    (Nat.ne_of_gt reader.channels_pos) {} ⟨[]⟩
  refine ⟨reader, _, pipeline, opened, content, opens.start?_writer, started, ?_⟩
  rw [run_of_large]
  unfold Wave.Reader.Sized
  rw [opens.frameSize_eq, stream]
  decide

end Session

end Overdub
