import Overdub.Text.Split
import Overdub.Voice.Percent

/-!
Paths of URLs: escapes for what may not stand in a segment, and segments of dots, which lead to the
place they stand in or to the one above. Paths of files may start with the letter of a drive.
-/

namespace Overdub.Url

def inFragment (c : Char) : Bool := Percent.isControl c || " \"<>`".toList.contains c

def inPath (c : Char) : Bool := inFragment c || ['#', '?', '\x7b', '\x7d'].contains c

def isDot (s : List Char) : Bool := [".".toList, "%2e".toList].contains (Text.lower s)

def isDoubleDot (s : List Char) : Bool :=
  ["..".toList, ".%2e".toList, "%2e.".toList, "%2e%2e".toList].contains (Text.lower s)

def startsWithDrive (s : List Char) : Bool :=
  match s with
  | a :: b :: s => a.isAlpha && (b = ':' || b = '|') && (s.isEmpty || s.head? = some '\\')
  | _ => false

def isDrive (s : List Char) : Bool := s.length = 2 && startsWithDrive s

structure Path where
  before : List Char := ['/']
  hasDrive : Bool := false

namespace Path

def canLoseSlash (before : List Char) : Bool :=
  match before with
  | '/' :: s => s.contains '/' && !startsWithDrive (s.takeWhile (· ≠ '/')).reverse
  | _ => false

def parent (isFile : Bool) (before : List Char) : List Char :=
  let before := if canLoseSlash before then before.tail else before
  let last := (before.takeWhile (· ≠ '/')).reverse
  if isFile && isDrive last && last.getLast? = some ':' then before
  else before.dropWhile (· ≠ '/')

def closeSlash (before : List Char) : List Char :=
  if before.head? = some '/' then before else '/' :: before

def add (isFile isLast : Bool) (p : Path) (s : List Char) : Path :=
  let close := if isLast then [] else ['/']
  if isDoubleDot s then
    let before := parent isFile p.before
    { p with before := if isLast then before else closeSlash before }
  else if isDot s then { p with before := closeSlash p.before }
  else if isFile && p.before.length = 1 && isDrive s then
    { before := close ++ ':' :: s.take 1 ++ p.before, hasDrive := true }
  else { p with before := close ++ s.reverse ++ p.before }

def addAll (isFile : Bool) (p : Path) : List (List Char) → Path
  | [] => p
  | [s] => p.add isFile true s
  | s :: t :: rest => addAll isFile (p.add isFile false s) (t :: rest)

def parse (isSpecial isFile : Bool) (s : List Char) : Path :=
  let s := if isSpecial then s.map fun c => if c = '\\' then '/' else c else s
  addAll isFile {} ((Text.split '/' s).map (Percent.escapeIf inPath))

def render (isFile : Bool) (p : Path) : List Char :=
  if isFile then '/' :: p.before.reverse.dropWhile (· = '/') else p.before.reverse

end Path

end Overdub.Url
