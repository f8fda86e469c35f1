import Overdub.Time.Duration
import Overdub.Text.Blank

/-!
Subtitle cues: what to say, when, and for how long.
-/

namespace Overdub

/-- Number of a cue in the order in which cues fall due, counted from zero. -/
abbrev CueId := Nat

structure Cue where
  text : String
  start : Duration
  duration : Duration
  deriving DecidableEq, Repr

namespace Cue

def ofLines (lines : List String) (start : Duration) (duration : Duration) : Cue :=
  ⟨"\n".intercalate lines, start, duration⟩

def finish (c : Cue) : Duration := c.start.add c.duration

def isDue (c : Cue) (now : Duration) : Bool := c.start ≤ now

def isBlank (c : Cue) : Bool := c.text.toList.all Text.isBlank

end Cue

def CueId.render (id : CueId) : String := s!"cue#{id}"

end Overdub
