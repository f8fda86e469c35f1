import Overdub.Proofs.Pcm.Channel
import Overdub.Proofs.Wave.Coding
import Overdub.Proofs.Wave.Header
import Overdub.Wave.Reader

/-!
What a wave file holds. A reader hands out the scalars of its file frame by frame, and a file that
was written with them holds the same.
-/

namespace Overdub

open Wave (Coding Content)

def Frame.content (f : Frame) : Content := ⟨f.stream.format.kind, Slice.interleave f.slices⟩

theorem Frame.scalarsAs_of_content {f : Frame} {k : Kind} {xs : List k.Scalar}
    (h : f.content = ⟨k, xs⟩) : f.scalarsAs k = xs := by
  unfold content at h
  cases h
  exact dif_pos rfl

namespace Wave

theorem content_cast {k k' : Kind} (e : k = k') (xs : List k.Scalar) :
    (⟨k', e ▸ xs⟩ : Content) = ⟨k, xs⟩ := by
  cases e
  rfl

namespace Writer

variable {w : Writer}

theorem write_of_content {f : Frame} {b : Coding} {xs : List b.kind.Scalar}
    (channels : w.spec.channels = f.stream.channels)
    (coding : Coding.of? w.spec.bits w.spec.float w.spec.width = some b)
    (h : f.content = ⟨b.kind, xs⟩) :
    w.write f = .ok { w with frames := w.frames + 1, data := xs.flatMap b.encode :: w.data } := by
  rw [write, if_neg (fun other => other channels), coding]
  dsimp only
  rw [Frame.scalarsAs_of_content h]

theorem written_cons (spec : Spec) (frames : Nat) (bs : List UInt8) (data : List (List UInt8)) :
    written ⟨spec, frames, bs :: data⟩ = written ⟨spec, frames, data⟩ ++ bs := by
  simp [written]

end Writer

namespace Reader

def rest (r : Reader) (c : Coding) : List UInt8 :=
  r.data.take (r.left * r.stream.channels * c.width)

abbrev Whole (r : Reader) (c : Coding) : Prop :=
  r.left * r.stream.channels * c.width ≤ r.data.length

abbrev Sized (r : Reader) : Prop := r.frameSize * r.stream.channels < 2 ^ 64

/-- The scalars that are left, in the order of the file; none if they cannot all be read. -/
def content? (r : Reader) : Option Content :=
  r.coding.bind fun c => if r.Whole c then some ⟨c.kind, c.decodeAll (r.rest c)⟩ else none

theorem content?_of_none {r : Reader} (unknown : r.coding = none) : r.content? = none := by
  rw [content?, unknown]
  rfl

theorem content?_of_some {r : Reader} {c : Coding} (coding : r.coding = some c) :
    r.content? = if r.Whole c then some ⟨c.kind, c.decodeAll (r.rest c)⟩ else none := by
  rw [content?, coding]
  rfl

/-- What a reader takes from the header of its file. -/
structure Opens (h : Header) (frameSize : Nat) (r : Reader) : Prop where
  kind_eq : h.spec.kind? = some r.stream.format.kind
  spec_eq : r.spec = h.spec
  stream_eq : r.stream = ⟨h.spec.rate, h.spec.channels, ⟨r.stream.format.kind, .interleaved⟩⟩
  coding_eq : r.coding = Coding.of? h.spec.bits h.spec.float h.width
  left_eq : r.left = h.size / h.width / h.spec.channels
  data_eq : r.data = h.data
  position_eq : r.position = 0
  frameSize_eq : r.frameSize = frameSize
  frameSize_pos : 0 < frameSize

variable {r : Reader} {path : String} {frameSize : Nat} {h : Header}

theorem exists_opens {file : Option (List UInt8)} (opened : start? path file frameSize = .ok r) :
    ∃ bytes h, file = some bytes ∧ Header.read bytes = .ok h ∧ Opens h frameSize r := by
  unfold start? at opened
  split at opened
  · cases opened
  · next bytes =>
    split at opened
    · cases opened
    · next h read =>
      split at opened
      · cases opened
      · next kind known =>
        dsimp only at opened
        split at opened
        · cases opened
        · split at opened
          · cases opened
          · split at opened
            · cases opened
            · next size =>
              cases opened
              exact ⟨bytes, h, rfl, read, known, rfl, rfl, rfl, rfl, rfl, rfl, rfl,
                Nat.pos_of_ne_zero size⟩

theorem exists_start? (path : String) {bytes : List UInt8} (read : Header.read bytes = .ok h)
    {k : Kind} (known : h.spec.kind? = some k) (rate : h.spec.rate ≠ 0)
    (channels : h.spec.channels ≠ 0) (size : 0 < frameSize) :
    ∃ r, start? path (some bytes) frameSize = .ok r ∧ Opens h frameSize r := by
  have opened : ∃ r, start? path (some bytes) frameSize = .ok r := by
    unfold start?
    simp only [read, known, dif_neg rate, dif_neg channels, if_neg (Nat.ne_of_gt size)]
    exact ⟨_, rfl⟩
  obtain ⟨r, opened⟩ := opened
  obtain ⟨_, h', same, read', opens⟩ := exists_opens opened
  cases same
  cases read.symm.trans read'
  exact ⟨r, opened, opens⟩

section Next

variable {c : Coding}

def count (r : Reader) : Nat := min r.frameSize r.left

def bytes (r : Reader) (c : Coding) : List UInt8 :=
  r.data.take (r.count * r.stream.channels * c.width)

def front (r : Reader) (c : Coding) (kind : c.kind = r.stream.format.kind) : Frame where
  stream := r.stream
  timeBase := r.timeBase
  pts := some r.position
  slices := Slice.deinterleave r.channels_pos (kind ▸ c.decodeAll (r.bytes c))
  rate_ne := r.rate_ne
  channels_pos := r.channels_pos

def after (r : Reader) (c : Coding) : Reader :=
  { r with
    position := r.position + r.count
    left := r.left - r.count
    data := r.data.drop (r.count * r.stream.channels * c.width) }

theorem count_ne_zero (size : 0 < r.frameSize) (more : r.left ≠ 0) : r.count ≠ 0 := by
  unfold count
  omega

theorem next_of_large (large : ¬ r.Sized) : r.next = .error .overflow :=
  if_pos (Nat.not_lt.mp large)

theorem next_of_done (sized : r.Sized) (done : r.left = 0) : r.next = .ok (none, r) := by
  unfold next
  rw [done, Nat.min_zero, if_neg (Nat.not_le_of_lt sized)]
  rfl

theorem next_of_unknown (sized : r.Sized) (more : r.count ≠ 0) (unknown : r.coding = none) :
    r.next = .error (.file .unsupported) := by
  unfold next
  unfold count at more
  simp only [if_neg (Nat.not_le_of_lt sized), if_neg more, unknown]

theorem next_eq (sized : r.Sized) (more : r.count ≠ 0) (coding : r.coding = some c)
    (kind : c.kind = r.stream.format.kind) :
    r.next = if r.data.length < r.count * r.stream.channels * c.width then .error (.file .short)
      else .ok (some (r.front c kind), r.after c) := by
  unfold next after front bytes
  unfold count at *
  simp only [if_neg (Nat.not_le_of_lt sized), if_neg more, coding, dif_pos kind, List.length_take]
  grind

theorem length_bytes (there : r.count * r.stream.channels * c.width ≤ r.data.length) :
    (r.bytes c).length = r.count * r.stream.channels * c.width :=
  List.length_take_of_le there

theorem content_front (kind : c.kind = r.stream.format.kind)
    (there : r.count * r.stream.channels * c.width ≤ r.data.length) :
    (r.front c kind).content = ⟨c.kind, c.decodeAll (r.bytes c)⟩ := by
  have same := content_cast kind (c.decodeAll (r.bytes c))
  have length := (congrArg (·.2.length) same).trans (c.length_decodeAll (length_bytes there))
  unfold Frame.content front
  rw [Slice.interleave_deinterleave _ length]
  exact same

theorem size_eq (r : Reader) (c : Coding) : r.left * r.stream.channels * c.width =
    r.count * r.stream.channels * c.width + (r.left - r.count) * r.stream.channels * c.width := by
  have le : r.count ≤ r.left := Nat.min_le_right ..
  rw [← Nat.add_mul, ← Nat.add_mul, Nat.add_sub_cancel' le]

theorem rest_eq (r : Reader) (c : Coding) : r.rest c = r.bytes c ++ (r.after c).rest c := by
  unfold rest bytes
  rw [size_eq r c, List.take_add]
  rfl

theorem whole_after (there : r.count * r.stream.channels * c.width ≤ r.data.length) :
    (r.after c).Whole c ↔ r.Whole c := by
  unfold Whole after
  rw [size_eq r c, List.length_drop]
  dsimp only
  omega

end Next

theorem exists_start?_finish {w : Writer} (ok : Writer.Writable w.spec) (rate : w.spec.rate ≠ 0)
    {k : Kind} (known : w.spec.kind? = some k) {b : Coding}
    (coding : Coding.of? w.spec.bits w.spec.float w.spec.width = some b) {xs : List b.kind.Scalar}
    {n : Nat} (count : xs.length = n * w.spec.channels) (written : w.written = xs.flatMap b.encode)
    (decodes : b.decodeAll (xs.flatMap b.encode) = xs)
    (below : n * w.spec.channels * b.width < 256 ^ 4) (path : String) (size : 0 < frameSize) :
    ∃ r, start? path (some w.finish) frameSize = .ok r ∧ r.spec = w.spec ∧
      r.stream = ⟨w.spec.rate, w.spec.channels, ⟨k, .interleaved⟩⟩ ∧
      r.content? = some ⟨b.kind, xs⟩ := by
  have channels := ok.fits.channels_pos
  have width := Coding.width_of? coding
  have length : w.written.length = n * w.spec.channels * b.width := by
    rw [written, Coding.length_flatMap_encode, count]
  have whole : w.spec.width * w.spec.channels ∣ w.written.length := by
    rw [length, width, Nat.mul_assoc, Nat.mul_comm w.spec.channels]
    exact Nat.dvd_mul_left ..
  have read := Writer.read_finish ok (length ▸ below) whole
  obtain ⟨r, started, opens⟩ := exists_start? path read known rate (Nat.ne_of_gt channels) size
  have kind : r.stream.format.kind = k := Option.some.inj (opens.kind_eq.symm.trans known)
  have left : r.left = n := by
    rw [opens.left_eq, length, width, Nat.mul_div_cancel _ ok.width_pos, Nat.mul_div_cancel _ channels]
  refine ⟨r, started, opens.spec_eq, ?_, ?_⟩
  · rw [opens.stream_eq, kind]
  · have stream : r.stream.channels = w.spec.channels := congrArg Stream.channels opens.stream_eq
    have all : r.left * r.stream.channels * b.width = r.data.length := by
      rw [left, stream, opens.data_eq, length]
    rw [content?_of_some (opens.coding_eq.trans coding), if_pos (Nat.le_of_eq all), rest,
      List.take_of_length_le (Nat.le_of_eq all.symm), opens.data_eq, written, decodes]

namespace Opens

theorem channels_eq (opens : Opens h frameSize r) : r.spec.channels = r.stream.channels := by
  rw [opens.spec_eq, opens.stream_eq]

theorem rate_ne (opens : Opens h frameSize r) : r.spec.rate ≠ 0 := by
  have same : r.stream.rate = h.spec.rate := congrArg Stream.rate opens.stream_eq
  rw [opens.spec_eq, ← same]
  exact r.rate_ne

theorem start?_writer (opens : Opens h frameSize r) :
    Writer.start? r.spec = .ok { spec := r.spec } := by
  have known := opens.kind_eq
  rw [← opens.spec_eq] at known
  have bits : r.spec.bits ∈ [8, 16, 24, 32] := by
    unfold Spec.kind? at known
    grind
  exact if_pos bits

variable {c : Coding}

theorem of?_eq (opens : Opens h frameSize r) (coding : r.coding = some c) :
    Coding.of? r.spec.bits r.spec.float h.width = some c := by
  rw [opens.spec_eq, ← opens.coding_eq, coding]

theorem writable (opens : Opens h frameSize r) (fits : h.Fits) (coding : r.coding = some c) :
    Writer.Writable r.spec := by
  have known := opens.of?_eq coding
  have width : r.spec.width = c.bare.width := (Coding.width_of? (Coding.of?_bare known)).symm
  have le : r.spec.width ≤ h.width := by
    rw [width, ← Coding.width_of? known]
    exact c.width_bare_le
  have align : r.spec.width * h.spec.channels ≤ h.width * h.spec.channels := Nat.mul_le_mul_right _ le
  have kind := opens.kind_eq
  rw [← opens.spec_eq] at align kind
  obtain ⟨channels_pos, channels_lt, align_lt, pace_lt⟩ := fits
  rw [← opens.spec_eq] at channels_pos channels_lt align_lt pace_lt
  exact Writer.writable_of_kind? kind ⟨channels_pos, channels_lt, Nat.lt_of_le_of_lt align align_lt,
    Nat.lt_of_le_of_lt (Nat.mul_le_mul_right _ align) pace_lt⟩

theorem size_lt (opens : Opens h frameSize r) (size : h.size < 256 ^ 4) (coding : r.coding = some c) :
    r.left * r.stream.channels * c.bare.width < 256 ^ 4 := by
  have width := Coding.width_of? (opens.of?_eq coding)
  have scalars : r.left * r.stream.channels ≤ h.size / h.width := by
    rw [← opens.channels_eq, opens.left_eq, opens.spec_eq]
    exact Nat.div_mul_le_self ..
  have bytes := Nat.mul_le_mul scalars (width ▸ c.width_bare_le)
  exact Nat.lt_of_le_of_lt (Nat.le_trans bytes (Nat.div_mul_le_self ..)) size

theorem exists_copy (opens : Opens h frameSize r) (fits : h.Fits) (size : h.size < 256 ^ 4)
    (coding : r.coding = some c) (whole : r.Whole c) {w : Writer} (spec : w.spec = r.spec)
    (written : w.written = (c.scalars (r.rest c)).flatMap c.bare.encode) (path : String) {m : Nat}
    (pos : 0 < m) : ∃ copy, start? path (some w.finish) m = .ok copy ∧ copy.spec = r.spec ∧
      copy.stream = r.stream ∧ copy.content? = some ⟨c.kind, c.decodeAll (r.rest c)⟩ := by
  have count : (c.scalars (r.rest c)).length = r.left * r.spec.channels := by
    rw [opens.channels_eq]
    exact c.length_scalars (List.length_take_of_le whole)
  have kind := opens.kind_eq
  have below := opens.size_lt size coding
  rw [← opens.spec_eq] at kind
  rw [← opens.channels_eq] at below
  rw [← spec] at count kind below
  obtain ⟨copy, started, same, stream, content⟩ := exists_start?_finish
    (spec ▸ opens.writable fits coding) (spec ▸ opens.rate_ne) kind
    (spec ▸ Coding.of?_bare (opens.of?_eq coding)) count written (c.decodeAll_scalars _) below path pos
  refine ⟨copy, started, same.trans spec, ?_, content.trans (congrArg some (c.content_eq _).symm)⟩
  rw [stream, spec, opens.spec_eq, ← opens.stream_eq]

end Opens

end Reader

end Wave

end Overdub
