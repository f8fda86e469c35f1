import Overdub.Text.Float

/-!
Configuration documents: keys and values in tables, after the rules of TOML. A key is defined
once; tables that are only implied by the names of others may still be defined.
-/

namespace Overdub.Toml

inductive Origin
  | header
  | implied
  | dotted
  | closed
  deriving DecidableEq, Repr

inductive Value
  | string (s : String)
  | integer (n : Int)
  | float (x : Float)
  | boolean (b : Bool)
  | moment
  | array (xs : List Value)
  | table (origin : Origin) (entries : List (String × Value))
  | tables (ts : List (List (String × Value)))

abbrev Entries := List (String × Value)

namespace Entries

def set (key : String) (v : Value) : Entries → Entries
  | [] => [(key, v)]
  | e :: es => if e.1 = key then (key, v) :: es else e :: set key v es

/-- Defines a key. Its dots lead into tables that no header has defined and into the last table of
an array; the table that takes the key must have come about by dots. -/
def define (es : Entries) : List String → Value → Option Entries
  | [], _ => none
  | [k], v => if (es.lookup k).isSome then none else some (es ++ [(k, v)])
  | k :: ks, v =>
    match es.lookup k with
    | none => do return es ++ [(k, .table .dotted (← define [] ks v))]
    | some (.table .dotted inner) => do return es.set k (.table .dotted (← define inner ks v))
    | some (.table .implied inner) =>
      if ks.length = 1 then none
      else do return es.set k (.table .implied (← define inner ks v))
    | some (.tables (t :: ts)) =>
      if ks.length = 1 then none else do return es.set k (.tables ((← define t ks v) :: ts))
    | some _ => none

def change (f : Entries → Option Entries) (es : Entries) : List String → Option Entries
  | [] => f es
  | k :: ks =>
    match es.lookup k with
    | none => do return es ++ [(k, .table .implied (← change f [] ks))]
    | some (.table .closed _) => none
    | some (.table o inner) => do return es.set k (.table o (← change f inner ks))
    | some (.tables (t :: ts)) => do return es.set k (.tables ((← change f t ks) :: ts))
    | some _ => none

def openTable (k : String) (es : Entries) : Option Entries :=
  match es.lookup k with
  | none => some (es ++ [(k, .table .header [])])
  | some (.table .implied inner) => some (es.set k (.table .header inner))
  | some _ => none

def addTable (k : String) (es : Entries) : Option Entries :=
  match es.lookup k with
  | none => some (es ++ [(k, .tables [[]])])
  | some (.tables ts) => some (es.set k (.tables ([] :: ts)))
  | some _ => none

end Entries

/-! What is read from the head of a text, with the rest of it. A reader takes `n` turns at most, and
the text is never longer than that. -/

def isBlank (c : Char) : Bool := c == ' ' || c == '\t'

def isControl (c : Char) : Bool := (c.toNat < 0x20 && c != '\t') || c.toNat == 0x7f

def skipBlanks (s : List Char) : List Char := s.dropWhile isBlank

def newline? : List Char → Option (List Char)
  | '\n' :: s => some s
  | '\r' :: '\n' :: s => some s
  | _ => none

def skipComment (s : List Char) : List Char :=
  match s with
  | '#' :: s => s.dropWhile (!isControl ·)
  | s => s

def skipLines : Nat → List Char → List Char
  | 0, s => s
  | n + 1, s =>
    let s := skipComment (skipBlanks s)
    match newline? s with
    | some s => skipLines n s
    | none => s

def char? (n : Nat) : Option Char := if n.isValidChar then some (Char.ofNat n) else none

def hex? (size : Nat) (s : List Char) : Option (Char × List Char) :=
  let ds := s.take size
  let value := fun (c : Char) =>
    if Text.isDigit c then some (Text.digit c)
    else if 'a' ≤ c ∧ c ≤ 'f' then some (c.toNat - 87)
    else if 'A' ≤ c ∧ c ≤ 'F' then some (c.toNat - 55)
    else none
  if ds.length < size then none
  else do
    let ns ← ds.mapM value
    return (← char? (ns.foldl (fun n d => n * 16 + d) 0), s.drop size)

def escape? : List Char → Option (Char × List Char)
  | 'b' :: s => some ('\x08', s)
  | 't' :: s => some ('\t', s)
  | 'n' :: s => some ('\n', s)
  | 'f' :: s => some ('\x0c', s)
  | 'r' :: s => some ('\r', s)
  | 'e' :: s => some ('\x1b', s)
  | '"' :: s => some ('"', s)
  | '\\' :: s => some ('\\', s)
  | 'x' :: s => hex? 2 s
  | 'u' :: s => hex? 4 s
  | 'U' :: s => hex? 8 s
  | _ => none

def quoted? (q : Char) : Nat → List Char → Option (List Char × List Char)
  | 0, _ => none
  | _, [] => none
  | n + 1, c :: s =>
    if c = q then some ([], s)
    else if c = '\\' && q = '"' then do
      let (c, s) ← escape? s
      let (text, s) ← quoted? q n s
      return (c :: text, s)
    else if isControl c then none
    else do
      let (text, s) ← quoted? q n s
      return (c :: text, s)

def skipBlankLines : Nat → List Char → List Char
  | 0, s => s
  | n + 1, s =>
    match newline? (skipBlanks s) with
    | some s => skipBlankLines n s
    | none => skipBlanks s

/-- Text up to three quotes in a row; two more may stand before them. A backslash at the end of a
line joins it to the next text; any other line end stands for itself. -/
def multiline? (q : Char) : Nat → List Char → Option (List Char × List Char)
  | 0, _ => none
  | n + 1, s =>
    let quotes := (s.takeWhile (· = q)).length
    if 3 ≤ quotes then
      let extra := min (quotes - 3) 2
      some (.replicate extra q, s.drop (extra + 3))
    else
      match s with
      | [] => none
      | c :: rest =>
        match newline? s with
        | some rest => do
          let (text, s) ← multiline? q n rest
          return (if c = '\r' then '\r' :: '\n' :: text else '\n' :: text, s)
        | none =>
          if c = '\\' && q = '"' then
            match newline? (skipBlanks rest) with
            | some rest => multiline? q n (skipBlankLines n rest)
            | none => do
              let (c, s) ← escape? rest
              let (text, s) ← multiline? q n s
              return (c :: text, s)
          else if isControl c then none
          else do
            let (text, s) ← multiline? q n rest
            return (c :: text, s)

def string? (n : Nat) (s : List Char) : Option (List Char × List Char) :=
  match s with
  | '"' :: '"' :: '"' :: s => multiline? '"' n ((newline? s).getD s)
  | '\'' :: '\'' :: '\'' :: s => multiline? '\'' n ((newline? s).getD s)
  | '"' :: s => quoted? '"' n s
  | '\'' :: s => quoted? '\'' n s
  | _ => none

def isBare (c : Char) : Bool := c.isAlphanum || c == '_' || c == '-'

def simpleKey? (n : Nat) (s : List Char) : Option (String × List Char) :=
  match s with
  | '"' :: rest => (quoted? '"' n rest).map fun r => (.ofList r.1, r.2)
  | '\'' :: rest => (quoted? '\'' n rest).map fun r => (.ofList r.1, r.2)
  | _ =>
    let k := s.takeWhile isBare
    if k.isEmpty then none else some (.ofList k, s.drop k.length)

def depthLimit : Nat := 80

def keys? (n : Nat) : Nat → List Char → Option (List String × List Char)
  | 0, _ => none
  | depth + 1, s => do
    let (k, s) ← simpleKey? n (skipBlanks s)
    match skipBlanks s with
    | '.' :: s =>
      let (ks, s) ← keys? n depth s
      return (k :: ks, s)
    | s => return ([k], s)

def key? (n : Nat) (s : List Char) : Option (List String × List Char) := keys? n depthLimit s

def digits? (isDigit : Char → Bool) (s : List Char) : Option (List Char) :=
  let groups := Text.split '_' s
  if groups.all fun g => !g.isEmpty && g.all isDigit then some groups.flatten else none

def unsign (s : List Char) : List Char :=
  if s.head? = some '+' || s.head? = some '-' then s.tail else s

def whole? (s : List Char) : Option (List Char) :=
  if 2 ≤ s.length && s.head? = some '0' then none else digits? Text.isDigit s

def based? (base : Nat) (s : List Char) : Option Int :=
  let value := fun (c : Char) =>
    if Text.isDigit c then Text.digit c
    else if c.isAlpha then (c.toLower.toNat - 87 : Nat)
    else base
  (digits? (value · < base) s).map fun ds => (ds.foldl (fun n c => n * base + value c) 0 : Nat)

def integer? (s : List Char) : Option Int :=
  match s with
  | '0' :: 'x' :: ds => based? 16 ds
  | '0' :: 'o' :: ds => based? 8 ds
  | '0' :: 'b' :: ds => based? 2 ds
  | _ =>
    (whole? (unsign s)).map fun ds =>
      if s.head? = some '-' then -(Text.ofDigits ds : Int) else Text.ofDigits ds

def float? (s : List Char) : Option Float :=
  let rest := unsign s
  if rest = "inf".toList || rest = "nan".toList then Text.float? s
  else
    let number := rest.takeWhile fun c => c ≠ 'e' && c ≠ 'E'
    let whole := number.takeWhile (· ≠ '.')
    let isValid :=
      (whole? whole).isSome &&
      (number.length = whole.length ||
        (digits? Text.isDigit (number.drop (whole.length + 1))).isSome) &&
      (number.length = rest.length ||
        (digits? Text.isDigit (unsign (rest.drop (number.length + 1)))).isSome)
    if isValid && whole.length < rest.length then
      (Text.float? (s.filter (· ≠ '_'))).bind fun x => if x.isInf then none else some x
    else none

def field (n lo hi : Nat) (s : List Char) : Bool :=
  s.length = n && s.all Text.isDigit && lo ≤ Text.ofDigits s && Text.ofDigits s ≤ hi

def daysOf (year month : Nat) : Nat :=
  if month = 2 then if year % 4 = 0 && (year % 100 ≠ 0 || year % 400 = 0) then 29 else 28
  else if month ∈ [4, 6, 9, 11] then 30 else 31

def isDate (s : List Char) : Bool :=
  match Text.split '-' s with
  | [y, m, d] =>
    field 4 0 9999 y && field 2 1 12 m && field 2 1 (daysOf (Text.ofDigits y) (Text.ofDigits m)) d
  | _ => false

def isTime (s : List Char) : Bool :=
  let places := s.dropWhile (· ≠ '.')
  match Text.split ':' (s.takeWhile (· ≠ '.')) with
  | [h, m] => places.isEmpty && field 2 0 23 h && field 2 0 59 m
  | [h, m, sec] =>
    (places.isEmpty || (2 ≤ places.length && places.tail.all Text.isDigit)) &&
      field 2 0 23 h && field 2 0 59 m && field 2 0 60 sec
  | _ => false

def isOffset (s : List Char) : Bool :=
  Text.lower s = "z".toList ||
  match Text.split ':' s.tail with
  | [h, m] => (s.head? = some '+' || s.head? = some '-') && field 2 0 23 h && field 2 0 59 m
  | _ => s.isEmpty

def isMoment (s : List Char) : Bool :=
  isDate s || isTime s ||
    (isDate (s.take 10) && (s[10]?.any fun c => c = 'T' || c = 't' || c = ' ') &&
      let time := (s.drop 11).takeWhile fun c => Text.isDigit c || c = ':' || c = '.'
      isTime time && isOffset (s.drop (11 + time.length)))

def word (s : List Char) : List Char × List Char :=
  let isPart := fun (c : Char) => isBare c || c == '+' || c == '.' || c == ':'
  let first := s.takeWhile isPart
  let rest := s.drop first.length
  match rest with
  | ' ' :: c :: s =>
    if isDate first && Text.isDigit c then
      let second := (c :: s).takeWhile isPart
      (first ++ ' ' :: second, (c :: s).drop second.length)
    else (first, rest)
  | _ => (first, rest)

def isWord (n : Int) : Bool := -2 ^ 127 ≤ n && n < 2 ^ 128

def scalar? (s : List Char) : Option (Value × List Char) :=
  let (w, rest) := word s
  if w = "true".toList then some (.boolean true, rest)
  else if w = "false".toList then some (.boolean false, rest)
  else
    match integer? w, float? w with
    | some n, _ => if isWord n then some (.integer n, rest) else none
    | none, some x => some (.float x, rest)
    | none, none => if isMoment w then some (.moment, rest) else none

def items? (value? : List Char → Option (Value × List Char)) :
    Nat → List Char → Option (List Value × List Char)
  | 0, _ => none
  | n + 1, s =>
    match skipLines n s with
    | ']' :: s => some ([], s)
    | s => do
      let (v, s) ← value? s
      match skipLines n s with
      | ',' :: s =>
        let (vs, s) ← items? value? n s
        return (v :: vs, s)
      | ']' :: s => return ([v], s)
      | _ => none

def fields? (value? : List Char → Option (Value × List Char)) (es : Entries) :
    Nat → List Char → Option (Entries × List Char)
  | 0, _ => none
  | n + 1, s =>
    match skipLines n s with
    | '\x7d' :: s => some (es, s)
    | s => do
      let (k, s) ← key? n s
      match skipLines n s with
      | '=' :: s =>
        let (v, s) ← value? (skipLines n s)
        let es ← es.define k v
        match skipLines n s with
        | ',' :: s => fields? value? es n s
        | '\x7d' :: s => return (es, s)
        | _ => none
      | _ => none

def value? (n : Nat) (depth : Nat) (s : List Char) : Option (Value × List Char) :=
  match depth, s with
  | _, '"' :: _ | _, '\'' :: _ => (string? n s).map fun r => (.string (.ofList r.1), r.2)
  | depth + 1, '[' :: s => (items? (value? n depth) n s).map fun r => (.array r.1, r.2)
  | depth + 1, '\x7b' :: s =>
    (fields? (value? n depth) [] n s).map fun r => (.table .closed r.1, r.2)
  | _, s => scalar? s

def lineEnd? (s : List Char) : Option (List Char) :=
  match skipComment (skipBlanks s) with
  | [] => some []
  | s => newline? s

structure Document where
  root : Entries := []
  place : List String := []

def header? (n : Nat) (d : Document) (s : List Char) : Option (Document × List Char) := do
  let isArray := s.head? = some '['
  let (ks, s) ← key? n (if isArray then s.tail else s)
  let last ← ks.getLast?
  let f := if isArray then Entries.addTable last else Entries.openTable last
  let root ← d.root.change f ks.dropLast
  let close := if isArray then "]]".toList else "]".toList
  if close.isPrefixOf s then some (⟨root, ks⟩, s.drop close.length) else none

def pair? (n : Nat) (d : Document) (s : List Char) : Option (Document × List Char) := do
  let (ks, s) ← key? n s
  match s with
  | '=' :: s =>
    let (v, s) ← value? n depthLimit (skipBlanks s)
    let root ← d.root.change (fun es => es.define ks v) d.place
    return ({ d with root }, s)
  | _ => none

def lines? : Nat → Document → List Char → Option Document
  | 0, _, _ => none
  | n + 1, d, s =>
    match skipLines n s with
    | [] => some d
    | '[' :: s => do
      let (d, s) ← header? n d s
      lines? n d (← lineEnd? s)
    | s => do
      let (d, s) ← pair? n d s
      lines? n d (← lineEnd? s)

/-- Reads a whole document. A byte order mark at its head is not part of it. No step takes more
turns than there are characters. -/
def parse? (s : List Char) : Option Entries :=
  let s := if s.head? = some '\uFEFF' then s.tail else s
  (lines? (s.length + 2) {} s).map (·.root)

end Overdub.Toml
