import Overdub.Subtitle.Clock

/-!
SubStation files, of which only the events matter. A format line names the fields of an event;
each dialogue line is one cue.
-/

namespace Overdub.Subtitle.SubStation

structure Fields where
  count : Nat
  start : Nat
  finish : Nat
  deriving DecidableEq, Repr

def Fields.standard : Fields := ⟨10, 1, 2⟩

def Fields.ofNames (line : Nat) (names : List (List Char)) : Except Error Fields := do
  let names := names.map fun n => String.ofList (Text.lower (Text.trim n))
  let find := fun (key : String) =>
    match names.idxOf? key with
    | some i => Except.ok i
    | none => .error (.parse line (.noField key))
  let start ← find "start"
  let finish ← find "end"
  let text ← find "text"
  if text + 1 = names.length then return ⟨names.length, start, finish⟩
  else .error (.parse line .textNotLast)

/-- Plain text of a dialogue: overrides in braces are dropped, line breaks and hard spaces are
told by a backslash and a letter. -/
def plain : List Char → List Char
  | [] => []
  | '\\' :: 'N' :: s => '\n' :: plain s
  | '\\' :: 'n' :: s => '\n' :: plain s
  | '\\' :: 'h' :: s => ' ' :: plain s
  | c :: s =>
    if c = '\x7b' then plain (s.dropWhile (· ≠ '\x7d')).tail else c :: plain s
termination_by s => s.length
decreasing_by
  all_goals simp only [List.length_cons, List.length_tail]
  all_goals try omega
  have := (List.dropWhile_sublist (p := (· ≠ '\x7d')) (l := s)).length_le
  omega

def cue (line : Nat) (fields : Fields) (s : List Char) : Except Error Cue := do
  let parts := Text.splitAtMost fields.count ',' s
  if parts.length ≠ fields.count then
    .error (.parse line (.fieldCount fields.count parts.length))
  else
    let start ← clock line (parts.getD fields.start [])
    let finish ← clock line (parts.getD fields.finish [])
    return ⟨.ofList (Text.trim (plain (parts.getLastD []))), start, finish.sub start⟩

def parseFrom (n : Nat) (inEvents : Bool) (fields : Fields) :
    List (List Char) → Except Error (List Cue)
  | [] => .ok []
  | raw :: ls =>
    let l := Text.trim raw
    if l.head? = some '[' then
      parseFrom (n + 1) (Text.lower l = "[events]".toList) fields ls
    else if !inEvents then parseFrom (n + 1) inEvents fields ls
    else
      match Text.afterKey? "Format:".toList l with
      | some names => do parseFrom (n + 1) inEvents (← Fields.ofNames n (Text.split ',' names)) ls
      | none =>
        match Text.afterKey? "Dialogue:".toList l with
        | some event => do
          let c ← cue n fields event
          return c :: (← parseFrom (n + 1) inEvents fields ls)
        | none => parseFrom (n + 1) inEvents fields ls

def parse (s : List Char) : Except Error (List Cue) := parseFrom 1 false .standard (Text.lines s)

end Overdub.Subtitle.SubStation
