import Overdub.Subtitle.Clock

/-!
SubRip files: blocks between blank lines. A block has a line with an arrow between two
timestamps, and the text stands below it.
-/

namespace Overdub.Subtitle.SubRip

abbrev Line := Nat × List Char

def numbered (n : Nat) (s : List Char) : List Line :=
  (Text.lines s).mapIdx fun i l => (n + i, (l.reverse.dropWhile (· = '\r')).reverse)

def isGap (l : Line) : Bool := l.2.all Text.isBlank

def blocks : List Line → List (List Line)
  | [] => []
  | l :: ls =>
    if isGap l then blocks ls
    else
      match ls.head? with
      | none => [[l]]
      | some next =>
        if isGap next then [l] :: blocks ls
        else
          match blocks ls with
          | [] => [[l]]
          | b :: bs => (l :: b) :: bs

/-- Drops tags in angle brackets and overrides in braces. Within either only its own closing
mark is looked for; `closing` is the mark that is awaited. -/
def strip (closing : Option Char) : List Char → List Char
  | [] => []
  | c :: s =>
    match closing with
    | some mark => strip (if c = mark then none else some mark) s
    | none =>
      if c = '<' then strip (some '>') s
      else if c = '\x7b' then strip (some '\x7d') s
      else c :: strip none s

def spoken (ls : List Line) : List String :=
  (ls.map fun l => Text.trim (strip none l.2)).filter (· ≠ []) |>.map String.ofList

def firstWord (s : List Char) : List Char := (Text.trimStart s).takeWhile (!Text.isBlank ·)

/-- Reads a block that starts at line `first`. Lines above the arrow do not count, nor does what
follows the second timestamp. -/
def cue (first : Nat) : List Line → Except Error Cue
  | [] => .error (.parse first .noTiming)
  | (n, l) :: ls =>
    match Text.cutAt? ['-', '-', '>'] l with
    | none => cue first ls
    | some (start, finish) => do
      let start ← clock n start
      let finish ← clock n (firstWord finish)
      return .ofLines (spoken ls) start (finish.sub start)

def parse (s : List Char) : Except Error (List Cue) :=
  (blocks (numbered 1 s)).mapM fun b => cue ((b.head?.map (·.1)).getD 0) b

end Overdub.Subtitle.SubRip
