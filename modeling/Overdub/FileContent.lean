/-!
Files as what reading them gives.
-/

namespace Overdub

inductive ReadError
  | missing
  | notUtf8
  deriving DecidableEq, Repr

def ReadError.message : ReadError → String
  | .missing => "No such file or directory (os error 2)"
  | .notUtf8 => "stream did not contain valid UTF-8"

abbrev FileContent := Option ByteArray

def FileContent.text (file : FileContent) : Except ReadError String :=
  match file with
  | none => .error .missing
  | some bytes =>
    match String.fromUTF8? bytes with
    | some s => .ok s
    | none => .error .notUtf8

end Overdub
