import Overdub.Session
import Std.Async.DNS
import Std.Async.TCP
import Std.Async.Timer

/-!
The command line program: files, connections and the exit code.
-/

namespace Overdub.Main

open Std.Async Std.Net

def content (path : String) : IO FileContent := do
  try
    return some (← IO.FS.readBinFile path)
  catch _ => return none

def within {α : Type} [Inhabited α] (seconds : Nat) (x : Async α) : Async α :=
  Async.race x do
    sleep (1000 * (seconds : Int) |> Std.Time.Millisecond.Offset.ofInt)
    throw (IO.userError "timeout")

def connect (host : String) (port : Nat) : Async (Option TCP.Socket.Client) := do
  let addresses ← DNS.getAddrInfo host (toString port)
  let some address := addresses[0]? | return none
  let client ← TCP.Socket.Client.mk
  client.connect (match address with
    | .v4 a => .v4 ⟨a, .ofNat port⟩
    | .v6 a => .v6 ⟨a, .ofNat port⟩)
  return some client

partial def receive (client : TCP.Socket.Client) (bytes : ByteArray) : Async ByteArray := do
  match ← client.recv? 65536 with
  | none => return bytes
  | some more => receive client (bytes ++ more)

def exchange (timeout : Nat) (host : String) (port : Nat) (request : String) : Async ByteArray :=
  within timeout do
    let some client ← within Config.connectTimeout.seconds (connect host port)
      | throw (IO.userError "no address")
    client.send request.toUTF8
    receive client .empty

def ask (timeout : Nat) (server : VoiceServer) (text : String) :
    IO (Except VoiceError Answer) := do
  match server.url text with
  | .error e => return .error e
  | .ok url =>
    let failed := .error (.request (.ofList url.render))
    match url.endpoint? with
    | none => return failed
    | some (host, port) =>
      if url.scheme ≠ "http".toList then return failed
      try
        let bytes ← (exchange timeout host port (url.request "overdub/0.1.0")).block
        return (Response.parse? bytes.toList).elim failed (·.answer url)
      catch _ => return failed

partial def dub (ask : String → IO (Except VoiceError Answer)) (s : Session) :
    IO (Except RunError Unit × Session) := do
  match s.next with
  | .error e => return (.error e, s)
  | .ok (none, s) => return (.ok (), s)
  | .ok (some frame, s) =>
    let answers ← (s.pipeline.dueTexts frame).mapM fun cue => return (cue.1, ← ask cue.2)
    let answer := fun id _ => (answers.lookup id).getD (.error (.request ""))
    match s.dub (.ofAnswers answer) frame with
    | (.error e, s) => return (.error e, s)
    | (.ok (), s) => dub ask s

def save (path : String) (s : Session) (e : Wave.Error → RunError) : IO (Except RunError Unit) := do
  try
    IO.FS.writeBinFile path ⟨s.writer.finish.toArray⟩
    return .ok ()
  catch _ => return .error (e (.file .missing))

def run (l : CommandLine) : IO (Except RunError Unit) := do
  match l.configure (← content (l.given.config.getD "")) with
  | .error e => return .error e
  | .ok c =>
    let input := (← content l.input).map (·.toList)
    match Session.open? l c (← content c.subtitle) input with
    | .error e => return .error e
    | .ok s =>
      match ← save l.output s (.creating l.output), Session.connect c with
      | .error e, _ => return .error e
      | _, .error e => return .error e
      | .ok _, .ok server =>
        let (result, s) ← dub (ask c.timeout server) s
        let saved ← save l.output s .finishing
        return result.bind fun _ => saved

end Overdub.Main

open Overdub in
def main (args : List String) : IO UInt32 := do
  match CommandLine.parse args with
  | .error e =>
    if e.exitCode = 0 then IO.println e.message else IO.eprintln e.message
    if e ≠ .version then IO.println CommandLine.usage
    return .ofNat e.exitCode
  | .ok l =>
    match ← Main.run l with
    | .ok _ => return 0
    | .error e =>
      IO.eprintln e.render
      return 1
