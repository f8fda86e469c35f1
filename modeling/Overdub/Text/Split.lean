/-!
Cutting text at a character, into lines, and at blanks.
-/

namespace Overdub.Text

def split (c : Char) (s : List Char) : List (List Char) :=
  match _h : s.dropWhile (· ≠ c) with
  | [] => [s]
  | _ :: rest => s.takeWhile (· ≠ c) :: split c rest
termination_by s.length
decreasing_by
  have := (List.dropWhile_sublist (· ≠ c) (l := s)).length_le
  grind

/-- As `split`, but at most `n` pieces: the last one keeps the rest as it is. -/
def splitAtMost : Nat → Char → List Char → List (List Char)
  | 0, _, _ => []
  | 1, _, s => [s]
  | n + 2, c, s =>
    match s.dropWhile (· ≠ c) with
    | [] => [s]
    | _ :: rest => s.takeWhile (· ≠ c) :: splitAtMost (n + 1) c rest

/-- The lines of a text. A line feed at the very end starts no further line. -/
def lines (s : List Char) : List (List Char) :=
  let pieces := split '\n' s
  if pieces.getLast? = some [] then pieces.dropLast else pieces

def cutAt? (mark : List Char) : List Char → Option (List Char × List Char)
  | [] => if mark.isEmpty then some ([], []) else none
  | c :: s =>
    if mark.isPrefixOf (c :: s) then some ([], (c :: s).drop mark.length)
    else (cutAt? mark s).map fun p => (c :: p.1, p.2)

def lower (s : List Char) : List Char := s.map Char.toLower

def afterKey? (key s : List Char) : Option (List Char) :=
  if lower (s.take key.length) = lower key then some (s.drop key.length) else none

theorem split_ne_nil (c : Char) (s : List Char) : split c s ≠ [] := by
  unfold split; split <;> simp

end Overdub.Text
