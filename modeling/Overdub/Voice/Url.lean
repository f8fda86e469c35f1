import Overdub.Text.Numeral
import Overdub.Text.Split
import Overdub.Voice.Host
import Overdub.Voice.Url.Path

/-!
URLs and their normal form: scheme and host in lower case, no port that goes without saying, no
dot segments, and escapes for what may not stand in a part.
-/

namespace Overdub

inductive UrlError
  | relative
  | port
  | host (cause : HostError)
  deriving DecidableEq, Repr

def UrlError.message : UrlError → String
  | .relative => "relative URL without a base"
  | .port => "invalid port number"
  | .host cause => cause.message

structure Authority where
  user : List Char
  host : List Char
  port : Option Nat
  deriving DecidableEq, Repr

/-- Every part is in its written form. -/
structure Url where
  scheme : List Char
  authority : Option Authority
  path : List Char
  query : Option (List Char)
  fragment : Option (List Char)
  deriving DecidableEq, Repr

namespace Url

def defaultPort? (scheme : List Char) : Option Nat :=
  [("http".toList, 80), ("https".toList, 443), ("ws".toList, 80), ("wss".toList, 443),
    ("ftp".toList, 21)].lookup scheme

def inUser (c : Char) : Bool := inPath c || "/:;=@[\\]^|".toList.contains c

def inQuery (isSpecial : Bool) (c : Char) : Bool :=
  Percent.isControl c || " \"#<>".toList.contains c || (isSpecial && c == '\'')

def clean (s : List Char) : List Char :=
  let isBlank := fun (c : Char) => decide (c.toNat ≤ 0x20)
  (((s.dropWhile isBlank).reverse.dropWhile isBlank).reverse).filter
    fun c => c ≠ '\t' && c ≠ '\n' && c ≠ '\r'

def isScheme (s : List Char) : Bool :=
  (s.head?.any Char.isAlpha) && s.all fun c => c.isAlphanum || "+-.".toList.contains c

def port? (scheme s : List Char) : Except UrlError (Option Nat) :=
  if s.all Char.isDigit then
    let n := Text.ofDigits s
    if 2 ^ 16 ≤ n then .error .port
    else if s.isEmpty || defaultPort? scheme = some n then .ok none
    else .ok (some n)
  else .error .port

def splitUser (s : List Char) : Option (List Char) × List Char :=
  if s.contains '@' then
    let rest := (s.reverse.takeWhile (· ≠ '@')).reverse
    (some (s.take (s.length - rest.length - 1)), rest)
  else (none, s)

def user (s : List Char) : List Char :=
  let name := s.takeWhile (· ≠ ':')
  let password := s.drop (name.length + 1)
  if s.isEmpty || s = [':'] then []
  else
    Percent.escapeIf inUser name ++
      (if password.isEmpty then [] else ':' :: Percent.escapeIf inUser password) ++ ['@']

def hostLength (inBrackets : Bool) : List Char → Nat
  | [] => 0
  | c :: s =>
    if c = ':' && !inBrackets then 0 else hostLength (c = '[' || (inBrackets && c ≠ ']')) s + 1

/-- Reads user, host and port, and gives what is left for the path. `isLast` tells that nothing
follows. -/
def parseAuthority (scheme s : List Char) (isLast : Bool) :
    Except UrlError (Authority × List Char) := do
  let isSpecial := (defaultPort? scheme).isSome
  let (name, rest) := splitUser s
  if name = some [] && rest.isEmpty && !isLast then throw (.host .empty)
  let user := user (name.getD [])
  let host := rest.take (hostLength false rest)
  let rest := rest.drop host.length
  if host.isEmpty && (isSpecial || !rest.isEmpty || !user.isEmpty) then throw (.host .empty)
  let host ← (if isSpecial then Host.parse host else Host.parseOpaque host).mapError .host
  let digits := (rest.drop 1).takeWhile (· ≠ '\\')
  let port ← port? scheme digits
  return ({ user, host, port }, rest.drop (digits.length + 1))

def isPathEnd (c : Char) : Bool := c = '?' || c = '#'

def withTail (isSpecial : Bool) (u : Url) (s : List Char) : Url :=
  let query := s.takeWhile (· ≠ '#')
  let fragment := s.drop query.length
  { u with
    query :=
      if query.isEmpty then none else some (Percent.escapeIf (inQuery isSpecial) (query.drop 1))
    fragment :=
      if fragment.isEmpty then none else some (Percent.escapeIf inFragment (fragment.drop 1)) }

def isSlash (isSpecial : Bool) (c : Char) : Bool := c = '/' || (isSpecial && c = '\\')

def dropSlash (isSpecial : Bool) (s : List Char) : List Char :=
  if s.head?.any (isSlash isSpecial) then s.tail else s

def parseHierarchical (scheme s : List Char) : Except UrlError Url := do
  let isSpecial := (defaultPort? scheme).isSome
  let place := s.takeWhile fun c => !isSlash isSpecial c && !isPathEnd c
  let rest := s.drop place.length
  let (authority, left) ← parseAuthority scheme place rest.isEmpty
  let rest := left ++ rest
  let path := rest.takeWhile (!isPathEnd ·)
  let written :=
    if path.isEmpty && !isSpecial then []
    else (Path.parse isSpecial false (dropSlash isSpecial path)).render false
  return withTail isSpecial ⟨scheme, some authority, written, none, none⟩ (rest.drop path.length)

def fileScheme : List Char := "file".toList

def parseFile (s : List Char) : Except UrlError Url := do
  let isSlash := isSlash true
  let hasPlace := 2 ≤ s.length && (s.take 2).all isSlash
  let s := if hasPlace then s.drop 2 else s
  let place := if hasPlace then s.takeWhile fun c => !isSlash c && !isPathEnd c else []
  let place := if isDrive place then [] else place
  let host ← if place.isEmpty then pure [] else (Host.parse place).mapError .host
  let host := if host = "localhost".toList then [] else host
  let rest := s.drop place.length
  let path := rest.takeWhile (!isPathEnd ·)
  let parsed :=
    Path.parse true true (if hasPlace && host.isEmpty then path else dropSlash true path)
  let authority := ⟨[], if parsed.hasDrive then [] else host, none⟩
  return withTail true ⟨fileScheme, some authority, parsed.render true, none, none⟩
    (rest.drop path.length)

def parseOther (scheme s : List Char) : Url :=
  let path := s.takeWhile (!isPathEnd ·)
  let written :=
    if path.head? = some '/' then (Path.parse false false path.tail).render false
    else Percent.escapeIf Percent.isControl path
  withTail false ⟨scheme, none, written, none, none⟩ (s.drop path.length)

def parse (s : List Char) : Except UrlError Url := do
  let s := clean s
  let scheme := s.takeWhile (· ≠ ':')
  if scheme.length = s.length || !isScheme scheme then throw .relative
  let s := s.drop (scheme.length + 1)
  let scheme := Text.lower scheme
  if scheme = fileScheme then parseFile s
  else if (defaultPort? scheme).isSome then parseHierarchical scheme (s.dropWhile (isSlash true))
  else if "//".toList.isPrefixOf s then parseHierarchical scheme (s.drop 2)
  else return parseOther scheme s

def Authority.render (a : Authority) : List Char :=
  a.user ++ a.host ++
    match a.port with
    | none => []
    | some n => ':' :: (toString n).toList

def target (u : Url) : List Char :=
  u.path ++
    match u.query with
    | none => []
    | some q => '?' :: q

/-- Without a place, a path that starts with two slashes has a dot before it, lest it be taken for
one. -/
def render (u : Url) : List Char :=
  u.scheme ++ ':' ::
    ((match u.authority with
      | none => if "//".toList.isPrefixOf u.path then ['/', '.'] else []
      | some a => '/' :: '/' :: Authority.render a) ++
    target u ++
    match u.fragment with
    | none => []
    | some f => '#' :: f)

end Url

end Overdub
