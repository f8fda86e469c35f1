import Overdub.Proofs.Bytes
import Overdub.Wave.Writer

/-!
Headers of wave files, read and written. A header that was read keeps within the fields that it came
from, and what is written under such a header is read back.
-/

namespace Overdub.Wave

open Bytes (Scan)
open Bytes.Scan (Yields)

namespace Header

structure Fits (h : Header) : Prop where
  channels_pos : 0 < h.spec.channels
  channels_lt : h.spec.channels < 256 ^ 2
  align_lt : h.width * h.spec.channels < 256 ^ 2
  pace_lt : h.width * h.spec.channels * h.spec.rate.toNat < 256 ^ 4

section Format

variable (size : Nat) (spec : Spec)

def Alike (spec spec' : Spec) : Prop := spec'.channels = spec.channels ∧ spec'.rate = spec.rate

theorem ofPcm_alike : (ofPcm size spec).Yields (Alike spec) := by
  unfold ofPcm
  apply Yields.guard; intro _
  apply Yields.ite <;> intro _
  · apply Yields.any.bind; intro _ _
    apply Yields.guard; intro _
    apply Yields.ite <;> intro _
    · apply Yields.any.bind; intro _ _
      exact .pure ⟨rfl, rfl⟩
    · exact .pure ⟨rfl, rfl⟩
  · apply Yields.ite <;> intro _
    · apply Yields.any.bind; intro _ _
      exact .pure ⟨rfl, rfl⟩
    · exact .pure ⟨rfl, rfl⟩

theorem ofFloat_alike : (ofFloat size spec).Yields (Alike spec) := by
  unfold ofFloat
  apply Yields.guard; intro _
  apply Yields.any.bind; intro _ _
  iterate 2
    apply Yields.guard; intro _
  exact .pure ⟨rfl, rfl⟩

theorem ofExtensible_alike : (ofExtensible size spec).Yields (Alike spec) := by
  unfold ofExtensible
  apply Yields.guard; intro _
  apply Yields.any.bind; intro _ _
  apply Yields.guard; intro _
  iterate 4
    apply Yields.any.bind; intro _ _
  apply Yields.guard; intro _
  exact .pure ⟨rfl, rfl⟩

end Format

theorem ofFormat_fits (size : Nat) : (ofFormat size).Yields Fits := by
  unfold ofFormat
  apply Yields.guard; intro _
  apply Yields.any.bind; intro format _
  apply Yields.word.bind; intro channels hc
  apply Yields.word.bind; intro rate hr
  apply Yields.word.bind; intro pace hp
  apply Yields.word.bind; intro align ha
  apply Yields.any.bind; intro bits _
  apply Yields.guard; intro some
  apply Yields.guard; intro _
  apply Yields.guard; intro even
  iterate 2
    apply Yields.guard; intro _
  -- The format tells the rest of the chunk apart, and nothing of it counts here but what it keeps.
  have fits : ∀ spec, Alike ⟨channels, .ofNat rate, bits, false⟩ spec →
      Fits { spec, width := align / channels } := by
    rintro spec ⟨hc', hr'⟩
    have width := Nat.div_mul_le_self align channels
    have rate' : (UInt32.ofNat rate).toNat = rate := UInt32.toNat_ofNat_of_lt hr
    constructor <;> simp only [hc', hr', rate']
    · omega
    · exact hc
    · omega
    · refine Nat.lt_of_le_of_lt (Nat.mul_le_mul_right rate width) ?_
      omega
  apply Yields.ite <;> intro _
  · apply (ofPcm_alike ..).bind; intro spec alike
    exact .pure (fits spec alike)
  apply Yields.ite <;> intro _
  · apply (ofFloat_alike ..).bind; intro spec alike
    exact .pure (fits spec alike)
  apply Yields.ite <;> intro _
  · apply (ofExtensible_alike ..).bind; intro spec alike
    exact .pure (fits spec alike)
  · exact Yields.throw.bind (P := fun _ => False) nofun

theorem untilData_fits {found : Option Header} (known : ∀ h ∈ found, h.Fits) {s : List UInt8}
    {h : Header} (read : untilData found s = .ok h) : h.Fits ∧ h.size < 256 ^ 4 := by
  fun_induction untilData found s with
  | case1 a b c d e f g h' _ _ _ _ header =>
    cases read
    have fits := known header rfl
    exact ⟨⟨fits.channels_pos, fits.channels_lt, fits.align_lt, fits.pace_lt⟩,
      Bytes.word_lt [e, f, g, h']⟩
  | case2 => cases read
  | case3 found _ _ _ _ _ _ _ _ s name size _ _ header _ chunk ih =>
    apply ih _ read
    intro header' mem
    cases mem
    exact (ofFormat_fits size).of_run chunk
  | case4 => cases read
  | case5 => cases read
  | case6 _ _ _ _ _ _ _ _ _ _ _ _ _ _ _ _ ih => exact ih known read
  | case7 => cases read

section Except

variable {α β : Type} {e : FileError} {b : β}

theorem bind_ok {m : Except FileError α} {f : α → Except FileError β} {a : α} (h : m = .ok a) :
    m >>= f = f a := by
  rw [h]
  rfl

theorem exists_of_bind {m : Except FileError α} {f : α → Except FileError β}
    (h : m >>= f = .ok b) : ∃ a, m = .ok a ∧ f a = .ok b := by
  cases m with
  | error e => cases h
  | ok a => exact ⟨a, rfl, h⟩

theorem pass_guard {c : Prop} [Decidable c] {k : PUnit → Except FileError β} (down : ¬ c) :
    (if c then (throw e : Except FileError PUnit) >>= k else k ⟨⟩) = k ⟨⟩ := by
  rw [if_neg down]

theorem of_guard {c : Prop} [Decidable c] {k : PUnit → Except FileError β}
    (h : (if c then (throw e : Except FileError PUnit) >>= k else k ⟨⟩) = .ok b) :
    ¬ c ∧ k ⟨⟩ = .ok b := by
  split at h
  · cases h
  · next down => exact ⟨down, h⟩

end Except

theorem read_fits {bytes : List UInt8} {h : Header} (done : Header.read bytes = .ok h) :
    h.Fits ∧ h.size < 256 ^ 4 ∧ h.size % h.width = 0 ∧ h.size / h.width % h.spec.channels = 0 := by
  unfold Header.read at done
  obtain ⟨_, -, done⟩ := exists_of_bind done
  obtain ⟨-, done⟩ := of_guard done
  obtain ⟨_, -, done⟩ := exists_of_bind done
  obtain ⟨_, -, done⟩ := exists_of_bind done
  obtain ⟨-, done⟩ := of_guard done
  obtain ⟨header, found, done⟩ := exists_of_bind done
  obtain ⟨scalars, done⟩ := of_guard done
  obtain ⟨samples, done⟩ := of_guard done
  cases done
  obtain ⟨fits, size⟩ := untilData_fits (fun _ mem => by cases mem) found
  exact ⟨fits, size, Decidable.of_not_not scalars, Decidable.of_not_not samples⟩

end Header

namespace Writer

open Header (bind_ok pass_guard untilData ofFormat ofPcm ofFloat ofExtensible)

def common (format : Nat) (s : Spec) : List UInt8 :=
  Bytes.ofWord 2 format ++ Bytes.ofWord 2 s.channels ++ Bytes.ofWord 4 s.rate.toNat ++
    Bytes.ofWord 4 (s.width * s.channels * s.rate.toNat) ++ Bytes.ofWord 2 (s.width * s.channels) ++
    Bytes.ofWord 2 s.bits

def extension (s : Spec) : List UInt8 :=
  Bytes.ofWord 2 22 ++ Bytes.ofWord 2 s.bits ++ Bytes.ofWord 4 (channelMask s.channels) ++
    Bytes.ofWord 2 (if s.float then formatFloat else formatPcm) ++ subformatTail

abbrev IsShort (s : Spec) : Prop := s.channels ≤ 2 ∧ s.bits ≤ 16

def chunk (s : Spec) : List UInt8 :=
  if IsShort s then common formatPcm s else common formatExtensible s ++ extension s

theorem format_eq (s : Spec) :
    format s = tag "fmt " ++ Bytes.ofWord 4 (chunk s).length ++ chunk s := by
  unfold format chunk common extension
  by_cases short : IsShort s
  · simp only [if_pos short]
  · simp only [if_neg short, List.append_assoc]

theorem length_chunk_of_short {s : Spec} (short : IsShort s) : (chunk s).length = 16 := by
  rw [chunk, if_pos short]
  simp [common]

theorem length_chunk_of_not_short {s : Spec} (long : ¬ IsShort s) : (chunk s).length = 40 := by
  rw [chunk, if_neg long]
  simp [common, extension, subformatTail]

variable {s : Spec}

structure Writable (s : Spec) : Prop where
  fits : Header.Fits { spec := s, width := s.width }
  bits_eq : s.bits = 8 * s.width
  width_pos : 0 < s.width
  width_le : s.width ≤ 4
  float_bits : s.float → s.bits = 32

theorem writable_of_kind? {k : Kind} (known : s.kind? = some k)
    (fits : Header.Fits { spec := s, width := s.width }) : Writable s := by
  have bits : s.bits = 8 ∨ s.bits = 16 ∨ s.bits = 24 ∨ s.bits = 32 := by
    unfold Spec.kind? at known
    grind
  have float : s.float → s.bits = 32 := by
    unfold Spec.kind? at known
    grind
  refine ⟨fits, ?_, ?_, ?_, float⟩ <;> unfold Spec.width <;> omega

theorem run_common (w : Writable s) {size format : Nat} (hs : 16 ≤ size) (hf : format < 256 ^ 2)
    (rest : List UInt8) :
    let spec : Spec := { s with float := false }
    let done := fun spec : Spec => (pure { spec, width := s.width } : Scan FileError Header)
    (ofFormat size).run (common format s ++ rest) =
      (if format = formatPcm then ofPcm size spec >>= done
        else if format = formatFloat then ofFloat size spec >>= done
        else if format = formatExtensible then ofExtensible size spec >>= done
        else throw .unsupported >>= done).run rest := by
  intro spec done
  obtain ⟨⟨some, channels, align, pace⟩, bits, width_pos, width_le, -⟩ := w
  dsimp only at some channels align pace
  have width : s.width * s.channels / s.channels = s.width := Nat.mul_div_cancel _ some
  unfold ofFormat common
  simp only [List.append_assoc]
  refine (Scan.run_guard (Nat.not_lt.mpr hs)).trans ?_
  refine (Scan.run_bind (Scan.word_ofWord_append hf _)).trans ?_
  refine (Scan.run_bind (Scan.word_ofWord_append channels _)).trans ?_
  refine (Scan.run_bind (Scan.word_ofWord_append s.rate.toNat_lt _)).trans ?_
  refine (Scan.run_bind (Scan.word_ofWord_append pace _)).trans ?_
  refine (Scan.run_bind (Scan.word_ofWord_append align _)).trans ?_
  refine (Scan.run_bind (Scan.word_ofWord_append (by omega) _)).trans ?_
  refine (Scan.run_guard (Nat.ne_of_gt some)).trans ?_
  refine (Scan.run_guard (by rw [width]; omega)).trans ?_
  refine (Scan.run_guard fun uneven => uneven rfl).trans ?_
  refine (Scan.run_guard (by omega)).trans ?_
  refine (Scan.run_guard (by omega)).trans ?_
  rw [width, UInt32.ofNat_toNat]

theorem run_extension (bits : s.bits < 256 ^ 2) (some : s.bits ≠ 0) (rest : List UInt8) :
    (ofExtensible 40 { s with float := false }).run (extension s ++ rest) = .ok (s, rest) := by
  have known : (if s.float then formatFloat else formatPcm) < 256 ^ 2 := by split <;> decide
  have mask : channelMask s.channels < 256 ^ 4 := by
    have : 2 ^ min s.channels 18 ≤ 2 ^ 18 := Nat.pow_le_pow_right (by decide) (Nat.min_le_right ..)
    unfold channelMask
    omega
  have tail : subformatTail.length = 14 := rfl
  unfold ofExtensible extension
  simp only [List.append_assoc]
  refine (Scan.run_guard (by decide)).trans ?_
  refine (Scan.run_bind (Scan.word_ofWord_append (by decide) _)).trans ?_
  refine (Scan.run_guard fun other => other rfl).trans ?_
  refine (Scan.run_bind (Scan.word_ofWord_append bits _)).trans ?_
  refine (Scan.run_bind (Scan.word_ofWord_append mask _)).trans ?_
  refine (Scan.run_bind (Scan.word_ofWord_append known _)).trans ?_
  refine (Scan.run_bind (Scan.take_append tail _)).trans ?_
  refine (Scan.run_guard ?_).trans ?_
  · rintro (other | other)
    · exact other rfl
    · split at other
      · exact other.2 rfl
      · exact other.1 rfl
  · rw [if_neg some]
    obtain ⟨channels, rate, bits, _ | _⟩ := s <;> rfl

theorem run_chunk (w : Writable s) (rest : List UInt8) :
    (ofFormat (chunk s).length).run (chunk s ++ rest) =
      .ok ({ spec := s, width := s.width }, rest) := by
  by_cases short : IsShort s
  · have whole : { s with float := false } = s := by
      obtain ⟨channels, rate, bits, _ | _⟩ := s
      · rfl
      · have := w.float_bits rfl
        have := short.2
        dsimp only at *
        omega
    rw [length_chunk_of_short short, chunk, if_pos short, run_common w (by decide) (by decide), whole]
    rfl
  · have bits := w.bits_eq
    have pos := w.width_pos
    have le := w.width_le
    rw [length_chunk_of_not_short short, chunk, if_neg short, List.append_assoc,
      run_common w (by decide) (by decide)]
    exact Scan.run_bind (run_extension (by omega) (by omega) rest)

section Tags

theorem tag_data : tag "data" = [100, 97, 116, 97] := by decide +kernel

theorem tag_format : tag "fmt " = [102, 109, 116, 32] := by decide +kernel

theorem length_tag_riff : (tag "RIFF").length = 4 := by decide +kernel

theorem length_tag_wave : (tag "WAVE").length = 4 := by decide +kernel

end Tags

section Chunks

variable {size : Nat} {h : Header}

theorem exists_bytes (below : size < 256 ^ 4) :
    ∃ e f g h, Bytes.ofWord 4 size = [e, f, g, h] ∧ Bytes.word [e, f, g, h] = size :=
  ⟨_, _, _, _, rfl, Bytes.word_ofWord below⟩

theorem untilData_data (below : size < 256 ^ 4) (h : Header) (s : List UInt8) :
    untilData (some h) (tag "data" ++ Bytes.ofWord 4 size ++ s) = .ok { h with size, data := s } := by
  obtain ⟨_, _, _, _, bytes, word⟩ := exists_bytes below
  rw [bytes, tag_data]
  simp only [List.cons_append, List.nil_append]
  rw [untilData, if_pos tag_data.symm, word]

theorem untilData_format (below : size < 256 ^ 4) {s s' : List UInt8}
    (read : (ofFormat size).run s = .ok (h, s')) :
    untilData none (tag "fmt " ++ Bytes.ofWord 4 size ++ s) =
      untilData (some h) (s.drop (min size 40)) := by
  obtain ⟨_, _, _, _, bytes, word⟩ := exists_bytes below
  have other : [102, 109, 116, 32] ≠ tag "data" := by
    rw [tag_data]
    decide
  rw [bytes, tag_format]
  simp only [List.cons_append, List.nil_append]
  rw [untilData, if_neg other, if_pos tag_format.symm, word, read]

end Chunks

def written (w : Writer) : List UInt8 := w.data.reverse.flatten

theorem read_finish {w : Writer} (ok : Writable w.spec) (below : w.written.length < 256 ^ 4)
    (whole : w.spec.width * w.spec.channels ∣ w.written.length) :
    Header.read w.finish = .ok
      { spec := w.spec, width := w.spec.width, size := w.written.length, data := w.written } := by
  have chunk_le : (chunk w.spec).length ≤ 40 := by
    by_cases short : IsShort w.spec
    · rw [length_chunk_of_short short]
      decide
    · exact Nat.le_of_eq (length_chunk_of_not_short short)
  have found : untilData none
      (format w.spec ++ tag "data" ++ Bytes.ofWord 4 w.written.length ++ w.written) = .ok
      { spec := w.spec, width := w.spec.width, size := w.written.length, data := w.written } := by
    rw [format_eq, List.append_assoc, List.append_assoc, List.append_assoc,
      untilData_format (by omega) (run_chunk ok _), Nat.min_eq_left chunk_le, List.drop_left,
      ← List.append_assoc]
    exact untilData_data below _ _
  unfold Header.read finish
  dsimp only
  rw [List.append_assoc, List.append_assoc (tag "WAVE"), List.append_assoc (tag "WAVE"),
    List.append_assoc (tag "WAVE")]
  refine (bind_ok (Scan.take_append length_tag_riff _)).trans ?_
  refine (pass_guard fun other => other rfl).trans ?_
  refine (bind_ok (Scan.word_append (Bytes.length_ofWord ..) _)).trans ?_
  refine (bind_ok (Scan.take_append length_tag_wave _)).trans ?_
  refine (pass_guard fun other => other rfl).trans ?_
  refine (bind_ok found).trans ?_
  have scalars : w.written.length % w.spec.width = 0 :=
    Nat.mod_eq_zero_of_dvd (Nat.dvd_trans (Nat.dvd_mul_right ..) whole)
  have samples : w.written.length / w.spec.width % w.spec.channels = 0 := by
    obtain ⟨n, count⟩ := whole
    rw [count, Nat.mul_assoc, Nat.mul_div_cancel_left _ ok.width_pos, Nat.mul_mod_right]
  refine (pass_guard fun other => other scalars).trans ?_
  exact pass_guard fun other => other samples

end Writer

end Overdub.Wave
