import Overdub.Speech.Error

/-!
Where a container starts. Its mark may stand behind other bytes, which are gone through pair by
pair: a pair with the hash of the head of a mark may be one, and then sixteen bytes must be there.
-/

namespace Overdub.Container

def markHeads : List (UInt8 × UInt8) :=
  [(0x52, 0x49), (0x63, 0x61), (0x66, 0x4c), (0x66, 0x74), (0x46, 0x4f), (0x4f, 0x67), (0x1a, 0x45),
    (0x49, 0x44)]

def frameMarks : List UInt8 :=
  [0xf1, 0xf9, 0xfe, 0xff, 0xfc, 0xfd, 0xf4, 0xf5, 0xe4, 0xe5, 0xfa, 0xfb, 0xf2, 0xf3, 0xe2, 0xe3]

def pairHash (a b : UInt8) : UInt32 :=
  let step := fun (h : UInt32) (x : UInt8) => (h ^^^ x.toUInt32) * 0x01000193
  (step (step 0x811c9dc5 a) b >>> 16) &&& 0x3fff

def markHashes : List UInt32 :=
  markHeads.map (fun p => pairHash p.1 p.2) ++ frameMarks.map (pairHash 0xff)

/-- What follows the mark, which is looked for in the next `n` bytes. A frame without a container
would have to be followed by more of its kind, up to the end of the bytes. -/
def afterMark (n : Nat) (last : UInt8) : List UInt8 → Except ContainerError (List UInt8)
  | [] => .error .unknown
  | b :: s =>
    match n with
    | 0 => .error .unknown
    | n + 1 =>
      if markHashes.contains (pairHash last b) then
        if (s.take 14).length < 14 || (last == 0xff && frameMarks.contains b) then
          .error .endOfStream
        else if last == 0x52 && b == 0x49 && s.take 2 == [0x46, 0x46] then .ok (s.drop 2)
        else afterMark n b s
      else afterMark n b s

def markLimit : Nat := 2 ^ 20

end Overdub.Container
