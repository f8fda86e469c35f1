import Overdub.Number
import Overdub.Text.Mark
import Overdub.Voice.HostName.Direction
import Overdub.Voice.HostName.Joiner
import Overdub.Voice.HostName.Mapping
import Overdub.Voice.HostName.Punycode

/-!
Host names of any letters, and their form in seven bits. Names are made of labels with dots between;
a label with other letters is written as a code behind a mark.
-/

namespace Overdub.HostName

structure Label where
  text : List Char
  written : List Char

def isBasic (s : List Char) : Bool := s.all (·.toNat < 0x80)

def isForbidden (c : Char) : Bool :=
  c.toNat ≤ 0x20 || c.toNat = 0x7f || "#/:<>?@[\\]^|%".toList.contains c

def codeMark : List Char := "xn--".toList

def textLimit : Nat := 1000

def codeLimit : Nat := 2000

def isValid (s : List Char) : Bool :=
  !s.any isForbidden && !codeMark.isPrefixOf s && !(s.head?.any Text.isMark) && joinersFit [] s &&
    (isBasic s || s.length ≤ textLimit)

/-- The label of a text in its one spelling. A code must be needed for its text, and the text be in
its one spelling too. -/
def Label.ofText? (s : List Char) : Option Label := do
  if codeMark.isPrefixOf s then
    let code := s.drop codeMark.length
    let text ← Punycode.decode? code
    if code.length ≤ codeLimit && isBasic code && !isBasic text && normal? text = some text &&
        isValid text then
      some ⟨text, s⟩
    else none
  else if isValid s then
    some ⟨s, if isBasic s then s else codeMark ++ Punycode.encode s⟩
  else none

def toBasic? (s : List Char) : Option (List Char) := do
  let labels ← (Text.split '.' (← normal? s)).mapM Label.ofText?
  if directionsFit (labels.map (·.text)) then
    return ['.'].intercalate (labels.map (·.written))
  else none

end Overdub.HostName
