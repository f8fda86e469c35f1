import Overdub.FileContent
import Overdub.Text.Quoted

/-!
What can be wrong with a subtitle file.
-/

namespace Overdub

namespace Subtitle

inductive Flaw
  | noTiming
  | timestamp (raw : List Char)
  | noField (key : String)
  | textNotLast
  | fieldCount (expected found : Nat)
  deriving DecidableEq, Repr

def Flaw.message : Flaw → String
  | .noTiming => "cue block without a timing line"
  | .timestamp raw => s!"invalid timestamp {Text.quote raw}"
  | .noField key => s!"Format line lacks {key}"
  | .textNotLast => "Text must be the last field"
  | .fieldCount expected found => s!"expected {expected} fields, found {found}"

inductive Error
  | io (path : String) (cause : ReadError)
  | unsupported (extension : String)
  | parse (line : Nat) (flaw : Flaw)
  | overflow (line : Nat)
  deriving DecidableEq, Repr

def Error.message : Error → String
  | .io path cause => s!"cannot read {path}: {cause.message}"
  | .unsupported extension =>
    s!"unsupported subtitle format {Text.quote extension.toList} (expected .srt, .ass or .ssa)"
  | .parse line flaw => s!"line {line}: {flaw.message}"
  | .overflow line => s!"line {line}: timestamp out of range"

end Subtitle

end Overdub
