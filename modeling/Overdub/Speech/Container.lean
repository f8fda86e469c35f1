import Overdub.Speech.Chunk
import Overdub.Speech.Mark

/-!
The container of encoded speech. It may stand anywhere in the bytes, its chunks are padded to an
even length, and more of its header is doubted than in a primary file.
-/

namespace Overdub

open Bytes (Scan)

structure Container where
  coding : Wave.Coding
  rate : UInt32
  channels : Nat
  align : Nat
  samples : Option Nat := none
  size : Nat := 0
  data : List UInt8 := []

namespace Container

def word (n : Nat) : Scan ContainerError Nat := Scan.word .endOfStream n

def checkChannels (n : Nat) : Scan ContainerError Unit :=
  if 1 ≤ n ∧ n ≤ 26 then pure () else throw .channelCount

def pcmCoding (bits : Nat) (e : ContainerError) : Scan ContainerError Wave.Coding :=
  match bits with
  | 8 => pure .u8
  | 16 => pure .s16
  | 24 => pure (.s24 false)
  | 32 => pure .s32
  | _ => throw e

def floatCoding (bits : Nat) (e : ContainerError) : Scan ContainerError Wave.Coding :=
  match bits with
  | 32 => pure .f32
  | 64 => pure .f64
  | _ => throw e

def ofPcm (size channels bits : Nat) : Scan ContainerError Wave.Coding := do
  if size ≠ 16 ∧ size ≠ 18 ∧ size ≠ 40 then throw .pcmSize
  let _ ← word (size - 16)
  let coding ← pcmCoding bits .pcmBits
  checkChannels channels
  return coding

def ofFloat (size channels bits : Nat) : Scan ContainerError Wave.Coding := do
  if size = 18 then
    if (← word 2) ≠ 0 then throw .floatExtra
  else if size = 40 then
    let _ ← word 24
  else if size ≠ 16 then throw .floatSize
  let coding ← floatCoding bits .floatBits
  checkChannels channels
  return coding

def ones (mask : Nat) : Nat := ((List.range 32).filter mask.testBit).length

def dropOnes : Nat → Nat → Nat
  | 0, mask => mask
  | n + 1, mask => dropOnes n (mask - 2 ^ mask.log2)

def fitMask (mask channels : Nat) : Nat :=
  if channels ≤ ones mask then dropOnes (ones mask - channels) mask
  else
    let top := if mask = 0 then 0 else mask.log2 + 1
    mask + (2 ^ (channels - ones mask) - 1) * 2 ^ top

def ofExtensible (size channels bits : Nat) : Scan ContainerError Wave.Coding := do
  if size < 40 then throw .extensibleSize
  if (← word 2) ≠ 22 then throw .extensibleExtra
  let valid ← word 2
  if bits % 8 ≠ 0 then throw .containerBits
  if bits < valid then throw .validBits
  if 2 ^ 26 ≤ fitMask (← word 4) channels then throw .channelMask
  let format ← word 2
  if (← Scan.take .endOfStream 14) ≠ Wave.subformatTail then throw .subformat
  if format = Wave.formatPcm then pcmCoding bits .extensiblePcmBits
  else if format = Wave.formatFloat then
    if valid ≠ bits then throw .extensibleFloatValidBits
    floatCoding bits .extensibleFloatBits
  else throw .subformat

def ofFormat (size : Nat) : Scan ContainerError Container := do
  if size < 16 then throw .formatSize
  let format ← word 2
  let channels ← word 2
  let rate ← word 4
  let _ ← word 4
  let align ← word 2
  let bits ← word 2
  let coding ←
    if format = Wave.formatPcm then ofPcm size channels bits
    else if format = Wave.formatFloat then ofFloat size channels bits
    else if format = Wave.formatExtensible then ofExtensible size channels bits
    else if (format = 2 ∨ format = 0x11) ∧ bits ≠ 4 then throw .adpcmBits
    else throw .format
  return { coding, rate := .ofNat rate, channels, align }

/-- Reads chunks up to the data. Of the `length` bytes that the container claims to have, `used`
went by; `found` is the format chunk read last, `fact` a number of samples told apart. -/
def untilData (length used : Nat) (found : Option Container) (fact : Option Nat)
    (s : List UInt8) : Except DecodeError Container :=
  match _h : Chunk.next? length used s with
  | .error e => .error (.container e)
  | .ok none => .error (.container .noData)
  | .ok (some c) =>
    if c.name = Wave.tag "data" then
      match found with
      | none => .error .noTrack
      | some found =>
        let samples := if found.align = 0 then fact else some (c.size / found.align)
        .ok { found with samples, size := c.size, data := c.rest }
    else if c.name = Wave.tag "fmt " then
      match (ofFormat c.size).run c.rest with
      | .ok (found, _) =>
        untilData length c.used (some found) fact (c.rest.drop (min c.size 40))
      | .error e => .error (.container e)
    else if c.name = Wave.tag "fact" then
      if c.size ≠ 4 then .error (.container .factSize)
      else
        match _h' : Chunk.skip 4 c.rest with
        | .error e => .error (.container e)
        | .ok rest => untilData length c.used found (some (Bytes.word (c.rest.take 4))) rest
    else
      let skipped :=
        if c.name = Wave.tag "LIST" then Chunk.skipList c.size c.rest
        else Chunk.skip c.size c.rest
      match _h' : skipped with
      | .error e => .error (.container e)
      | .ok rest => untilData length c.used found fact rest
termination_by s.length
decreasing_by
  all_goals have := Chunk.length_rest_lt _h
  · simp only [List.length_drop]
    omega
  · have := Chunk.length_le_of_skip _h'
    omega
  · simp only [skipped] at _h'
    split at _h'
    · have := Chunk.length_le_of_skipList _h'
      omega
    · have := Chunk.length_le_of_skip _h'
      omega

def read (s : List UInt8) : Except DecodeError Container :=
  match afterMark markLimit 0 s with
  | .error e => .error (.container e)
  | .ok s =>
    match (Scan.take .endOfStream 8).run s with
    | .error e => .error (.container e)
    | .ok (head, s) =>
      if head.drop 4 = Wave.tag "WAVE" then untilData (Bytes.word (head.take 4)) 0 none none s
      else .error (.container .notWave)

end Container

end Overdub
