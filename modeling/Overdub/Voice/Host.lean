import Overdub.Voice.HostName.Label
import Overdub.Voice.Percent

/-!
Hosts: names, and addresses of four bytes or of eight words.
-/

namespace Overdub

inductive HostError
  | empty
  | name
  | character
  | fourBytes
  | eightWords
  deriving DecidableEq, Repr

def HostError.message : HostError → String
  | .empty => "empty host"
  | .name => "invalid international domain name"
  | .character => "invalid domain character"
  | .fourBytes => "invalid IPv4 address"
  | .eightWords => "invalid IPv6 address"

namespace Host

def number? (s : List Char) : Option Nat :=
  let (base, digits) :=
    if Text.lower (s.take 2) = "0x".toList then (16, s.drop 2)
    else if 2 ≤ s.length && s.head? = some '0' then (8, s.drop 1)
    else (10, s)
  if s.isEmpty then none
  else do
    let ds ← digits.mapM Percent.digit?
    if ds.all (· < base) then some (ds.foldl (fun n d => n * base + d) 0) else none

def endsInNumber (labels : List (List Char)) : Bool :=
  match labels.getLast? with
  | none => false
  | some s => (!s.isEmpty && s.all Char.isDigit) ||
      (Text.lower (s.take 2) = "0x".toList && (number? s).isSome)

def fourBytes? (labels : List (List Char)) : Option Nat := do
  if 4 < labels.length then none
  let ns ← labels.mapM number?
  let last ← ns.getLast?
  let firsts := ns.dropLast
  if firsts.all (· < 256) && last < 256 ^ (4 - firsts.length) then
    some (firsts.foldl (fun n b => n * 256 + b) 0 * 256 ^ (4 - firsts.length) + last)
  else none

def renderFourBytes (n : Nat) : List Char :=
  (".".intercalate ([3, 2, 1, 0].map fun i => toString (n / 256 ^ i % 256))).toList

def word? (s : List Char) : Option Nat :=
  if s.isEmpty || 4 < s.length then none
  else do
    let ds ← s.mapM Percent.digit?
    some (ds.foldl (fun n d => n * 16 + d) 0)

def byte? (s : List Char) : Option Nat :=
  let n := Text.ofDigits s
  if s.isEmpty || 3 < s.length || !s.all Text.isDigit || 256 ≤ n ||
      (2 ≤ s.length && s.head? = some '0') then none
  else some n

def words? (s : List Char) : Option (List Nat) :=
  if s.isEmpty then some []
  else
    let parts := Text.split ':' s
    match parts.getLast? with
    | some p =>
      if p.contains '.' then do
        let [a, b, c, d] ← (Text.split '.' p).mapM byte? | none
        let ws ← parts.dropLast.mapM word?
        some (ws ++ [256 * a + b, 256 * c + d])
      else parts.mapM word?
    | none => none

def eightWords? (s : List Char) : Option (List Nat) :=
  match Text.cutAt? "::".toList s with
  | none => do
    let ws ← words? s
    if ws.length = 8 then some ws else none
  | some (before, after) => do
    let ws ← words? before
    let vs ← words? after
    if ws.length + vs.length < 8 && !before.contains '.' then
      some (ws ++ .replicate (8 - ws.length - vs.length) 0 ++ vs)
    else none

def zeroRuns : List Nat → List Nat
  | [] => []
  | w :: ws =>
    let runs := zeroRuns ws
    (if w = 0 then runs.headD 0 + 1 else 0) :: runs

/-- The first of the longest runs of two or more zeros is left out. -/
def renderEightWords (ws : List Nat) : List Char :=
  let runs := zeroRuns ws
  let longest := runs.foldl max 0
  let join := fun (ws : List Nat) =>
    ":".intercalate (ws.map fun w => String.ofList (Nat.toDigits 16 w))
  let body :=
    if longest < 2 then join ws
    else
      let i := runs.idxOf longest
      join (ws.take i) ++ "::" ++ join (ws.drop (i + longest))
  '[' :: body.toList ++ [']']

def parseBrackets (s : List Char) : Except HostError (List Char) :=
  match if s.getLast? = some ']' then eightWords? (s.drop 1).dropLast else none with
  | some ws => .ok (renderEightWords ws)
  | none => .error .eightWords

def parse (s : List Char) : Except HostError (List Char) :=
  if s.head? = some '[' then parseBrackets s
  else
    let text := String.fromUTF8? ⟨(Percent.decode s).toArray⟩
    match text.bind fun t => HostName.toBasic? t.toList with
    | none => .error .name
    | some name =>
      let labels := Text.split '.' name
      let labels := if labels.getLast? = some [] then labels.dropLast else labels
      if name.isEmpty then .error .empty
      else if endsInNumber labels then
        match fourBytes? labels with
        | some n => .ok (renderFourBytes n)
        | none => .error .fourBytes
      else .ok name

def isDelimiter (c : Char) : Bool :=
  c = '\x00' || c = '\t' || c = '\n' || c = '\r' || " #/:<>?@[\\]^|".toList.contains c

def parseOpaque (s : List Char) : Except HostError (List Char) :=
  if s.head? = some '[' then parseBrackets s
  else if s.any isDelimiter then .error .character
  else .ok (Percent.escapeIf Percent.isControl s)

end Host

end Overdub
