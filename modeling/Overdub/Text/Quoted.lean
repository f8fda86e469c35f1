import Overdub.Text.Unseen

/-!
Quoted text for messages: every character can be told from every other.
-/

namespace Overdub.Text

def hex (n : Nat) : List Char := Nat.toDigits 16 n

def quoteChar (c : Char) : List Char :=
  match c with
  | '"' => ['\\', '"']
  | '\\' => ['\\', '\\']
  | '\t' => ['\\', 't']
  | '\n' => ['\\', 'n']
  | '\r' => ['\\', 'r']
  | '\x00' => ['\\', '0']
  | c => if isUnseen c then ['\\', 'u', '\x7b'] ++ hex c.toNat ++ ['\x7d'] else [c]

def quote (s : List Char) : String := .ofList ('"' :: s.flatMap quoteChar ++ ['"'])

end Overdub.Text
