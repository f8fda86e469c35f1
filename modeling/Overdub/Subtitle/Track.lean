import Overdub.Subtitle.SubRip
import Overdub.Subtitle.SubStation

/-!
A subtitle track hands out its cues in order of time, each once it is due.
-/

namespace Overdub

namespace Subtitle

structure Track where
  cues : List Cue := []

namespace Track

/-- Blank cues are dropped; cues of equal start keep their order. -/
def ofCues (cues : List Cue) : Track :=
  ⟨(cues.filter (!·.isBlank)).mergeSort fun a b => a.start ≤ b.start⟩

def withoutMark (s : List Char) : List Char := if s.head? = some '\uFEFF' then s.tail else s

def parseSubRip (s : String) : Except Error Track :=
  (SubRip.parse (withoutMark s.toList)).map ofCues

def parseSubStation (s : String) : Except Error Track :=
  (SubStation.parse (withoutMark s.toList)).map ofCues

def extension (path : String) : String :=
  let name := (path.toList.reverse.takeWhile (· ≠ '/')).reverse
  let ext := (name.reverse.takeWhile (· ≠ '.')).reverse
  if ext.length + 1 < name.length ∧ name ≠ ['.', '.'] then .ofList (Text.lower ext) else ""

def load (path : String) (file : FileContent) : Except Error Track :=
  match file.text with
  | .error e => .error (.io path e)
  | .ok text =>
    match extension path with
    | "srt" => parseSubRip text
    | "ass" | "ssa" => parseSubStation text
    | ext => .error (.unsupported ext)

def pull (t : Track) (now : Duration) : Option Cue × Track :=
  match t.cues with
  | [] => (none, t)
  | c :: cues => if c.isDue now then (some c, ⟨cues⟩) else (none, t)

end Track

end Subtitle

end Overdub
