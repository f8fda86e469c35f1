import Overdub.Text.Numeral

/-!
Text in seven bits. The characters of seven bits come first; behind a dash, numerals tell the others
by rising code points: how many steps to go on, where a step goes one place to the right and, from
the end of the text, to the next code point and back to the start.
-/

namespace Overdub.HostName.Punycode

def digit (n : Nat) : Char := if n < 26 then .ofNat (97 + n) else .ofNat (22 + n)

def digit? (c : Char) : Option Nat :=
  if Text.isDigit c then some (Text.digit c + 26)
  else if c.isLower then some (c.toNat - 97)
  else none

def threshold (bias k : Nat) : Nat := min 26 (max 1 (k - bias))

theorem threshold_pos (bias k : Nat) : 0 < threshold bias k := by unfold threshold; omega

def numeral (bias k n : Nat) : List Char :=
  let t := threshold bias k
  if n < t then [digit n]
  else digit (t + (n - t) % (36 - t)) :: numeral bias (k + 36) ((n - t) / (36 - t))
termination_by n
decreasing_by
  have := threshold_pos bias k
  exact Nat.lt_of_le_of_lt (Nat.div_le_self _ _) (by omega)

def numeral? (bias : Nat) : Nat → Nat → List Char → Option (Nat × List Char)
  | _, _, [] => none
  | k, w, c :: s =>
    match digit? c with
    | none => none
    | some d =>
      let t := threshold bias k
      if d < t then some (d * w, s)
      else (numeral? bias (k + 36) (w * (36 - t)) s).map fun r => (d * w + r.1, r.2)

theorem length_lt_of_numeral? {bias k w : Nat} {s : List Char} {r : Nat × List Char}
    (h : numeral? bias k w s = some r) : r.2.length < s.length := by
  induction s generalizing k w r with
  | nil => simp [numeral?] at h
  | cons c s ih =>
    simp only [numeral?] at h
    split at h
    · cases h
    · split at h
      · cases h
        simp
      · obtain ⟨q, hq, rfl⟩ := Option.map_eq_some_iff.1 h
        have := ih hq
        simp only [List.length_cons]
        omega

def scale (k delta : Nat) : Nat :=
  if 455 < delta then scale (k + 36) (delta / 35) else k + 36 * delta / (delta + 38)
termination_by delta

def adapt (delta count : Nat) (isFirst : Bool) : Nat :=
  let delta := if isFirst then delta / 700 else delta / 2
  scale 0 (delta + delta / count)

structure State where
  bias : Nat := 72
  delta : Nat := 0
  count : Nat
  isFirst : Bool := true
  written : List Char := []

def State.pass (m : Nat) (st : State) (c : Char) : State :=
  if c.toNat < m then { st with delta := st.delta + 1 }
  else if c.toNat = m then
    { bias := adapt st.delta (st.count + 1) st.isFirst, delta := 0, count := st.count + 1,
      isFirst := false, written := st.written ++ numeral st.bias 36 st.delta }
  else st

def State.tell (s : List Char) (n : Nat) (st : State) : List Nat → State
  | [] => st
  | m :: ms =>
    let st := s.foldl (pass m) { st with delta := st.delta + (m - n) * (st.count + 1) }
    tell s (m + 1) { st with delta := st.delta + 1 } ms

def encode (s : List Char) : List Char :=
  let basic := s.filter (·.toNat < 0x80)
  let others := (((s.map Char.toNat).filter (0x80 ≤ ·)).mergeSort).eraseReps
  basic ++ (if basic.isEmpty then [] else ['-']) ++
    (State.tell s 0x80 { count := basic.length } others).written

def insert? (bias n i : Nat) (isFirst : Bool) (text s : List Char) : Option (List Char) :=
  if s.isEmpty then some text
  else
    match _h : numeral? bias 36 1 s with
    | none => none
    | some (delta, s) =>
      let count := text.length + 1
      let n := n + (i + delta) / count
      let i := (i + delta) % count
      if n.isValidChar then
        insert? (adapt delta count isFirst) n (i + 1) false (text.insertIdx i (.ofNat n)) s
      else none
termination_by s.length
decreasing_by exact length_lt_of_numeral? _h

def decode? (s : List Char) : Option (List Char) :=
  let code := (s.reverse.takeWhile (· ≠ '-')).reverse
  let basic := s.take (s.length - code.length - 1)
  if s.contains '-' && basic.isEmpty then none else insert? 72 0x80 0 true basic code

end Overdub.HostName.Punycode
