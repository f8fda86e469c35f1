import Overdub.Wave.Coding
import Overdub.Wave.Error

/-!
The chunks of a wave file up to its samples. The last format chunk before the data counts.
-/

namespace Overdub.Wave

open Bytes (Scan)

def tag (s : String) : List UInt8 := s.toUTF8.toList

def subformatTail : List UInt8 := [0, 0, 0, 0, 16, 0, 128, 0, 0, 0xaa, 0, 0x38, 0x9b, 0x71]

def formatPcm : Nat := 1

def formatFloat : Nat := 3

def formatExtensible : Nat := 0xfffe

structure Header where
  spec : Spec
  width : Nat
  size : Nat := 0
  data : List UInt8 := []

namespace Header

def word (n : Nat) : Scan FileError Nat := Scan.word .short n

def flaw {α : Type} (f : Flaw) : Scan FileError α := throw (.illFormed f)

def ofPcm (size : Nat) (spec : Spec) : Scan FileError Spec := do
  if size ≠ 16 ∧ size ≠ 18 ∧ size ≠ 40 then flaw .unexpectedSize
  if size ≠ 16 then
    let _ ← word 2
    if spec.bits ≠ 8 ∧ spec.bits ≠ 16 ∧ spec.bits ≠ 24 then flaw .wideBits
  if size = 40 then
    let _ ← word 22
  return spec

def ofFloat (size : Nat) (spec : Spec) : Scan FileError Spec := do
  if size ≠ 16 ∧ size ≠ 18 then flaw .unexpectedSize
  if size = 18 ∧ (← word 2) ≠ 0 then flaw .extraSize
  if spec.bits ≠ 32 then flaw .floatBits
  return { spec with float := true }

/-- The valid bits replace the bits of the container, if they are told. -/
def ofExtensible (size : Nat) (spec : Spec) : Scan FileError Spec := do
  if size < 40 then flaw .unexpectedSize
  if (← word 2) ≠ 22 then flaw .extensibleSize
  let bits ← word 2
  let _ ← word 4
  let format ← word 2
  let rest ← Scan.take .short 14
  if rest ≠ subformatTail ∨ (format ≠ formatPcm ∧ format ≠ formatFloat) then throw .unsupported
  return { spec with bits := if bits = 0 then spec.bits else bits, float := format = formatFloat }

def ofFormat (size : Nat) : Scan FileError Header := do
  if size < 16 then flaw .formatSize
  let format ← word 2
  let channels ← word 2
  let rate ← word 4
  let bytesPerSecond ← word 4
  let align ← word 2
  let bits ← word 2
  let width := align / channels
  if channels = 0 then flaw .zeroChannels
  if 8 * width < bits ∨ 2 ^ 16 ≤ 8 * width then flaw .bitsExceedContainer
  if bytesPerSecond ≠ align * rate then flaw .inconsistent
  if bits % 8 ≠ 0 then flaw .bitsNotWhole
  if bits = 0 then flaw .zeroBits
  let spec : Spec := ⟨channels, .ofNat rate, bits, false⟩
  let spec ←
    if format = formatPcm then ofPcm size spec
    else if format = formatFloat then ofFloat size spec
    else if format = formatExtensible then ofExtensible size spec
    else throw .unsupported
  return { spec, width }

/-- Reads chunks up to the data; `found` is the format chunk read last. Unknown chunks are
skipped by their length. -/
def untilData (found : Option Header) (s : List UInt8) : Except FileError Header :=
  match s with
  | a :: b :: c :: d :: e :: f :: g :: h :: s =>
    let name := [a, b, c, d]
    let size := Bytes.word [e, f, g, h]
    if name = tag "data" then
      match found with
      | some header => .ok { header with size, data := s }
      | none => .error (.illFormed .noFormat)
    else if name = tag "fmt " then
      match (ofFormat size).run s with
      | .ok (header, _) => untilData (some header) (s.drop (min size 40))
      | .error e => .error e
    else
      let size := if name = tag "fact" then 4 else size
      if (s.take size).length < size then .error .short else untilData found (s.drop size)
  | _ => .error .short
termination_by s.length
decreasing_by all_goals simp only [List.length_drop, List.length_cons]; omega

def read (s : List UInt8) : Except FileError Header := do
  let (riff, s) ← (Scan.take .short 4).run s
  if riff ≠ tag "RIFF" then throw (.illFormed .noRiff)
  let (_, s) ← (word 4).run s
  let (wave, s) ← (Scan.take .short 4).run s
  if wave ≠ tag "WAVE" then throw (.illFormed .noWave)
  let header ← untilData none s
  if header.size % header.width ≠ 0 then throw (.illFormed .partialScalar)
  if header.size / header.width % header.spec.channels ≠ 0 then throw (.illFormed .partialSample)
  return header

end Header

end Overdub.Wave
