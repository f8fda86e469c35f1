import Overdub.Cue
import Overdub.Pcm.Frame

/-!
Speech that waits to be mixed: frames in order, each with the cue it belongs to.
-/

namespace Overdub

structure QueuedFrame where
  cue : CueId
  frame : Frame

/-- Frames in order, and how many samples per channel they hold together. The total is kept, not
counted anew. -/
structure Queue where
  frames : List QueuedFrame := []
  samples : Nat := 0

namespace Queue

def push (q : Queue) (f : QueuedFrame) : Queue := ⟨q.frames ++ [f], q.samples + f.frame.length⟩

def front? (q : Queue) : Option QueuedFrame := q.frames.head?

def pop (q : Queue) : Queue :=
  match q.frames with
  | [] => q
  | f :: frames => ⟨frames, q.samples - f.frame.length⟩

def popMany : Nat → Queue → Queue
  | 0, q => q
  | n + 1, q => popMany n q.pop

def isEmpty (q : Queue) : Bool := q.frames.isEmpty

def count (frames : List QueuedFrame) : Nat := (frames.map (·.frame.length)).sum

def without (q : Queue) (id : CueId) : Queue :=
  let frames := q.frames.filter (·.cue ≠ id)
  ⟨frames, count frames⟩

def setFrontPts (q : Queue) (pts : Option Int) : Queue :=
  { q with frames := q.frames.modifyHead fun f => { f with frame := f.frame.withPts pts } }

@[simp] theorem frames_push (q : Queue) (f : QueuedFrame) : (q.push f).frames = q.frames ++ [f] :=
  rfl

@[simp] theorem samples_push (q : Queue) (f : QueuedFrame) :
    (q.push f).samples = q.samples + f.frame.length := rfl

@[simp] theorem frames_pop (q : Queue) : q.pop.frames = q.frames.tail := by
  obtain ⟨_ | ⟨f, frames⟩, n⟩ := q <;> rfl

end Queue

end Overdub
