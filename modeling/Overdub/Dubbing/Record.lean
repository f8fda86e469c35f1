import Overdub.Dubbing.Generation

/-!
What is known of each cue that fell due, and running totals.
-/

namespace Overdub

inductive CueState
  | awaiting
  | generating
  | queued
  | mixing
  | retired
  | discarded
  deriving DecidableEq, Repr

def CueState.name : CueState → String
  | .awaiting => "awaiting"
  | .generating => "generating"
  | .queued => "queued"
  | .mixing => "mixing"
  | .retired => "retired"
  | .discarded => "discarded"

inductive Failure
  | blank
  | noAudio
  | mismatch
  | generation (cause : GenerationError)
  | decode (cause : DecodeError)

def Failure.message : Failure → String
  | .blank => "empty text"
  | .noAudio => "no audio produced"
  | .mismatch => "queued audio does not match the primary stream"
  | .generation cause => cause.message
  | .decode cause => cause.message

structure Record where
  id : CueId
  cue : Cue
  state : CueState := .generating
  speed : Option Float := none
  frames : Nat := 0
  failure : Option Failure := none

structure Totals where
  pulled : Nat := 0
  discarded : Nat := 0
  retired : Nat := 0
  frames : Nat := 0
  mixed : Nat := 0
  deriving DecidableEq, Repr

/-- The records of the cues so far, each under its number, and the totals that go with them.
Numbers only grow, so records stand in the order of their numbers. -/
structure Ledger where
  records : List Record := []
  nextId : CueId := 0
  totals : Totals := {}

namespace Ledger

def find? (l : Ledger) (id : CueId) : Option Record := l.records.find? (·.id = id)

def state (l : Ledger) (id : CueId) : CueState :=
  match l.find? id with
  | some r => r.state
  | none => .awaiting

def add (l : Ledger) (cue : Cue) : Ledger :=
  { records := l.records ++ [{ id := l.nextId, cue }]
    nextId := l.nextId + 1
    totals := { l.totals with pulled := l.totals.pulled + 1 } }

def update (l : Ledger) (id : CueId) (f : Record → Record) : Ledger :=
  { l with records := l.records.map fun r => if r.id = id then f r else r }

def discard (l : Ledger) (id : CueId) (why : Failure) : Ledger :=
  if (l.find? id).any (·.state ≠ .discarded) then
    { l.update id fun r => { r with state := .discarded, failure := some why } with
      totals := { l.totals with discarded := l.totals.discarded + 1 } }
  else l

def setState (l : Ledger) (id : CueId) (s : CueState) : Ledger :=
  l.update id fun r => if r.state = .discarded then r else { r with state := s }

def touch (l : Ledger) (id : CueId) : Ledger :=
  if l.state id = .queued then l.setState id .mixing else l

def retire (l : Ledger) (id : CueId) : Ledger :=
  if (l.find? id).any (fun r => r.state ≠ .retired ∧ r.state ≠ .discarded) then
    { l.setState id .retired with
      totals := { l.totals with retired := l.totals.retired + 1 } }
  else l

def settle (l : Ledger) (id : CueId) (result : Except GenerationError Report) : Ledger :=
  match result with
  | .error e => l.discard id (.generation e)
  | .ok report =>
    let failure := report.fault.map Failure.decode
    let l := l.update id fun r =>
      { r with speed := some report.speed, frames := report.frames, failure }
    if report.frames = 0 then l.discard id (failure.getD .noAudio) else l.setState id .queued

end Ledger

end Overdub
