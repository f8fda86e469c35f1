import Overdub.Text.Split

/-!
Tables of code points. A table is written in words: the ends of a range in hexadecimal digits, with
a dash between them unless they are one, and then what holds of the range.
-/

namespace Overdub.Text

def hexadecimal (s : List Char) : Nat :=
  s.foldl (fun n c => n * 16 + (if c ≤ '9' then c.toNat - 48 else c.toNat - 55)) 0

structure Span (α : Type) where
  first : Nat
  last : Nat
  value : α

namespace Span

def isDigit (c : Char) : Bool := ('0' ≤ c && c ≤ '9') || ('A' ≤ c && c ≤ 'F')

def ofWord {α : Type} (read : List Char → α) (s : List Char) : Span α :=
  let first := s.takeWhile isDigit
  match s.dropWhile isDigit with
  | '-' :: s => ⟨hexadecimal first, hexadecimal (s.takeWhile isDigit), read (s.dropWhile isDigit)⟩
  | s => ⟨hexadecimal first, hexadecimal first, read s⟩

def ofLines {α : Type} (read : List Char → α) (lines : List String) : List (Span α) :=
  lines.flatMap fun l => (split ' ' l.toList).map (ofWord read)

def ranges (lines : List String) : List (Span Unit) := ofLines (fun _ => ()) lines

def find? {α : Type} (spans : List (Span α)) (c : Char) : Option (Span α) :=
  List.find? (fun s => s.first ≤ c.toNat && c.toNat ≤ s.last) spans

def covers {α : Type} (spans : List (Span α)) (c : Char) : Bool := (find? spans c).isSome

end Span

end Overdub.Text
