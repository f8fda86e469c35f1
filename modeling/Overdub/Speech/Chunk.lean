import Overdub.Bytes
import Overdub.Speech.Error
import Overdub.Wave.Header

/-!
Chunks of a container and of the lists in it. Each starts at an even place, and none is longer than
what its parent has left.
-/

namespace Overdub

structure Chunk where
  name : List UInt8
  size : Nat
  used : Nat
  rest : List UInt8

namespace Chunk

def skip (n : Nat) (s : List UInt8) : Except ContainerError (List UInt8) :=
  match n with
  | 0 => .ok s
  | n + 1 =>
    match s.drop n with
    | [] => .error .endOfStream
    | _ :: rest => .ok rest

def unknownLength : Nat := 2 ^ 32 - 1

def next? (length used : Nat) (s : List UInt8) : Except ContainerError (Option Chunk) :=
  let padded := used + used % 2
  match skip (used % 2) s with
  | .error e => .error e
  | .ok s =>
    if length < padded + 8 then .ok none
    else
      match s with
      | a :: b :: c :: d :: e :: f :: g :: h :: rest =>
        let size := Bytes.word [e, f, g, h]
        let used := padded + 8
        if length - used < size ∧ ¬(length = size ∧ size = unknownLength) then
          .error .chunkTooLong
        else .ok (some ⟨[a, b, c, d], size, min (used + size) unknownLength, rest⟩)
      | _ => .error .endOfStream

theorem length_le_of_skip {n : Nat} {s r : List UInt8} (h : skip n s = .ok r) :
    r.length ≤ s.length := by
  unfold skip at h
  split at h
  · cases h
    exact Nat.le_refl _
  · split at h
    · cases h
    · next n _ b t ht =>
      cases h
      have := congrArg List.length ht
      simp only [List.length_drop, List.length_cons] at this
      omega

theorem length_rest_lt {length used : Nat} {s : List UInt8} {c : Chunk}
    (h : next? length used s = .ok (some c)) : c.rest.length < s.length := by
  simp only [next?] at h
  split at h
  · cases h
  · next t ht =>
    have := length_le_of_skip ht
    split at h
    · cases h
    · split at h
      · split at h
        · cases h
        · cases h
          simp only [List.length_cons] at this
          dsimp only
          omega
      · cases h

def skipTexts (length used : Nat) (s : List UInt8) : Except ContainerError (List UInt8) :=
  match _h : next? length used s with
  | .error e => .error e
  | .ok none => skip (used % 2 + (length - (used + used % 2)) + length % 2) s
  | .ok (some c) =>
    match _h' : skip c.size c.rest with
    | .error e => .error e
    | .ok s => skipTexts length c.used s
termination_by s.length
decreasing_by
  have := length_rest_lt _h
  have := length_le_of_skip _h'
  omega

def skipList (size : Nat) (s : List UInt8) : Except ContainerError (List UInt8) :=
  if size < 4 then .error .listSize
  else
    let length := size - 4
    match skip 4 s with
    | .error e => .error e
    | .ok rest =>
      if s.take 4 = Wave.tag "INFO" then skipTexts length 0 rest
      else skip (length + length % 2) rest

theorem length_le_of_skipTexts {length used : Nat} {s r : List UInt8}
    (h : skipTexts length used s = .ok r) : r.length ≤ s.length := by
  fun_induction skipTexts length used s with
  | case1 => cases h
  | case2 => exact length_le_of_skip h
  | case3 => cases h
  | case4 used s c hc t ht ih =>
    have := length_rest_lt hc
    have := length_le_of_skip ht
    have := ih h
    omega

theorem length_le_of_skipList {size : Nat} {s r : List UInt8} (h : skipList size s = .ok r) :
    r.length ≤ s.length := by
  simp only [skipList] at h
  split at h
  · cases h
  · split at h
    · cases h
    · next t ht =>
      have := length_le_of_skip ht
      split at h
      · exact Nat.le_trans (length_le_of_skipTexts h) this
      · exact Nat.le_trans (length_le_of_skip h) this

end Chunk

end Overdub
