import Overdub.Cue
import Overdub.Subtitle.Error
import Overdub.Text.Numeral
import Overdub.Text.Split

/-!
Timestamps of subtitle files: hours, minutes and seconds between colons, then, after a comma or
a point, up to nine digits of a decimal fraction.
-/

namespace Overdub.Subtitle

def cutFraction (s : List Char) : List Char × List Char :=
  let isMark := fun c => c = ',' ∨ c = '.'
  let after := (s.reverse.takeWhile (¬ isMark ·)).reverse
  if after.length = s.length then (s, []) else (s.take (s.length - after.length - 1), after)

def fraction? (digits : List Char) : Option Nat :=
  if digits.length ≤ 9 ∧ digits.all Text.isDigit then
    some (Text.ofDigits digits * 10 ^ (9 - digits.length))
  else none

def clock (line : Nat) (raw : List Char) : Except Error Duration :=
  let (hms, digits) := cutFraction (Text.trim raw)
  match (Text.split ':' hms).map (Text.word? 64 <| Text.trim ·), fraction? digits with
  | [some h, some m, some s], some nanos =>
    if 60 ≤ m ∨ 60 ≤ s then .error (.parse line (.timestamp raw))
    else if 2 ^ 64 ≤ h * 3600 + m * 60 + s then .error (.overflow line)
    else .ok (.ofParts (h * 3600 + m * 60 + s) nanos)
  | _, _ => .error (.parse line (.timestamp raw))

end Overdub.Subtitle
