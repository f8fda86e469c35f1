import Overdub.Voice.Answer
import Overdub.Voice.Status
import Overdub.Voice.Url

/-!
A server that speaks: the address that a text is sent to, the request for it, and what the
response means.
-/

namespace Overdub

def Url.parseServer (url : String) : Except VoiceError Url :=
  (Url.parse url.toList).mapError fun e => .invalidUrl url e.message

structure VoiceServer where
  address : String

namespace VoiceServer

def start? (address : String) : Except VoiceError VoiceServer :=
  (Url.parseServer address).map fun _ => ⟨address⟩

def url (s : VoiceServer) (text : String) : Except VoiceError Url :=
  Url.parseServer (requestUrl s.address text)

end VoiceServer

def Url.endpoint? (u : Url) : Option (String × Nat) :=
  u.authority.bind fun a =>
    let host := a.host.filter fun c => c ≠ '[' && c ≠ ']'
    (a.port <|> Url.defaultPort? u.scheme).map fun port => (String.ofList host, port)

def Url.requestLine (u : Url) : String := s!"GET {String.ofList u.target} HTTP/1.1"

def Url.request (u : Url) (agent : String) : String :=
  let host :=
    (u.authority.map fun a => String.ofList (Authority.render { a with user := [] })).getD ""
  "\r\n".intercalate
    [u.requestLine, s!"user-agent: {agent}", "accept: */*", s!"host: {host}", "connection: close",
      "", ""]

structure Response where
  status : Nat
  contentType : Option String
  body : List UInt8

namespace Response

def isPlain (c : Char) : Bool := c == '\t' || (0x20 ≤ c.toNat && c.toNat < 0x7f)

def answer (r : Response) (url : Url) : Except VoiceError Answer :=
  let name := String.ofList url.render
  if !Status.isSuccess r.status then .error (.status (Status.render r.status) name)
  else if r.body.isEmpty then .error (.emptyBody name)
  else .ok ⟨r.body, r.contentType.filter (·.toList.all isPlain)⟩

def line (bs : List UInt8) : List Char × List UInt8 :=
  let l := bs.takeWhile (· ≠ 10)
  let s := l.map fun b => Char.ofNat b.toNat
  (if s.getLast? = some '\r' then s.dropLast else s, bs.drop (l.length + 1))

theorem length_line (b : UInt8) (bs : List UInt8) :
    (line (b :: bs)).2.length < (b :: bs).length := by
  simp only [line, List.length_drop, List.length_cons]
  omega

def fields : List UInt8 → List (String × String) × List UInt8
  | [] => ([], [])
  | b :: bs =>
    let s := (line (b :: bs)).1
    if s.isEmpty then ([], (line (b :: bs)).2)
    else
      let name := s.takeWhile (· ≠ ':')
      let value := Text.trim (s.drop (name.length + 1))
      let (rest, body) := fields (line (b :: bs)).2
      ((.ofList (Text.lower name), .ofList value) :: rest, body)
termination_by bs => bs.length
decreasing_by exact length_line b bs

def chunkLength? (s : List Char) : Option Nat :=
  let digits := s.takeWhile fun c => (Percent.digit? c).isSome
  if digits.isEmpty then none
  else some (digits.foldl (fun n c => 16 * n + (Percent.digit? c).getD 0) 0)

def chunks? : List UInt8 → Option (List UInt8)
  | [] => none
  | b :: bs =>
    match chunkLength? (line (b :: bs)).1 with
    | none => none
    | some 0 => some []
    | some n =>
      let rest := (line (b :: bs)).2
      if rest.length < n + 2 then none else (chunks? (rest.drop (n + 2))).map (rest.take n ++ ·)
termination_by bs => bs.length
decreasing_by
  have := length_line b bs
  simp only [List.length_drop]
  omega

def parse? (bs : List UInt8) : Option Response := do
  let (status, rest) := line bs
  let code ← Text.word? 16 ((status.dropWhile (· ≠ ' ')).drop 1 |>.takeWhile (· ≠ ' '))
  let (fields, rest) := fields rest
  let body ←
    if (fields.lookup "transfer-encoding").isSome then chunks? rest
    else
      match fields.lookup "content-length" with
      | none => some rest
      | some n => do
        let n ← Text.word? 64 n.toList
        if rest.length < n then none else some (rest.take n)
  return ⟨code, fields.lookup "content-type", body⟩

end Response

end Overdub
