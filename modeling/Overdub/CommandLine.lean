import Overdub.Config.Basic
import Overdub.Text.Float

/-!
The command line: two files, and options that overlay the configuration. Every word is taken as
an option, a value or a file before the value itself is read, so what is wrong with a value shows
when the next option or file begins.
-/

namespace Overdub

inductive UsageError
  | help
  | version
  | missingFile
  | unknown
  | noValue
  | surplusValue
  | notNumber
  | twice
  deriving DecidableEq, Repr

def UsageError.exitCode : UsageError → Nat
  | .help | .version => 0
  | _ => 2

def UsageError.message : UsageError → String
  | .help => "Dub a WAV file with synthesized speech for every subtitle cue."
  | .version => "overdub 0.1.0"
  | .missingFile => "error: the input and the output file are required"
  | .unknown => "error: unexpected argument"
  | .noValue => "error: a value is required"
  | .surplusValue => "error: unexpected value"
  | .notNumber => "error: invalid number"
  | .twice => "error: an option cannot be used multiple times"

inductive Setting
  | input
  | output
  | config
  | subtitle
  | server
  | minSpeed
  | maxSpeed
  | subVolume
  | audVolume
  | timeout
  | frameSize
  deriving DecidableEq, Repr

namespace Setting

def ofLong? (name : String) : Option Setting :=
  [("config", config), ("subtitle", subtitle), ("server", server), ("min-speed", minSpeed),
    ("max-speed", maxSpeed), ("sub-volume", subVolume), ("aud-volume", audVolume),
    ("timeout", timeout), ("frame-size", frameSize)].lookup name

def ofShort? (c : Char) : Option Setting :=
  [('c', config), ('s', subtitle)].lookup c

end Setting

structure Given where
  input : Option String := none
  output : Option String := none
  config : Option String := none
  subtitle : Option String := none
  server : Option String := none
  minSpeed : Option Float := none
  maxSpeed : Option Float := none
  subVolume : Option Float := none
  audVolume : Option Float := none
  timeout : Option Nat := none
  frameSize : Option Nat := none

namespace Given

def path (s : String) : Except UsageError String :=
  if s.isEmpty then .error .noValue else .ok s

def number {α : Type} (x : Option α) : Except UsageError α :=
  match x with
  | some x => .ok x
  | none => .error .notNumber

def float (s : String) : Except UsageError Float := number (Text.float? s.toList)

def word (s : String) : Except UsageError Nat := number (Text.word? 64 s.toList)

def once {α : Type} (old : Option α) (new : Except UsageError α) : Except UsageError (Option α) :=
  if old.isSome then .error .twice else new.map some

def set (g : Given) (s : Setting) (value : String) : Except UsageError Given := do
  match s with
  | .input => return { g with input := ← once g.input (path value) }
  | .output => return { g with output := ← once g.output (path value) }
  | .config => return { g with config := ← once g.config (path value) }
  | .subtitle => return { g with subtitle := ← once g.subtitle (path value) }
  | .server => return { g with server := ← once g.server (.ok value) }
  | .minSpeed => return { g with minSpeed := ← once g.minSpeed (float value) }
  | .maxSpeed => return { g with maxSpeed := ← once g.maxSpeed (float value) }
  | .subVolume => return { g with subVolume := ← once g.subVolume (float value) }
  | .audVolume => return { g with audVolume := ← once g.audVolume (float value) }
  | .timeout => return { g with timeout := ← once g.timeout (word value) }
  | .frameSize => return { g with frameSize := ← once g.frameSize (word value) }

end Given

inductive Argument
  | stop
  | option (s : Setting) (value : Option String)
  | flag (answer : UsageError)
  | plain

namespace Argument

def ofLong (s : List Char) : Argument :=
  let name := s.takeWhile (· ≠ '=')
  let value :=
    if name.length < s.length then some (String.ofList (s.drop (name.length + 1)))
    else none
  match Setting.ofLong? (.ofList name), String.ofList name with
  | some s, _ => .option s value
  | none, "help" => .flag (if value.isSome then .surplusValue else .help)
  | none, "version" => .flag (if value.isSome then .surplusValue else .version)
  | none, _ => .flag .unknown

def ofShort (c : Char) (s : List Char) : Argument :=
  match Setting.ofShort? c, c with
  | some t, _ =>
    let value := if s.head? = some '=' then s.tail else s
    .option t (if s.isEmpty then none else some (.ofList value))
  | none, 'h' => .flag .help
  | none, 'V' => .flag .version
  | none, _ => .flag .unknown

def ofWord (arg : String) : Argument :=
  match arg.toList with
  | ['-', '-'] => .stop
  | '-' :: '-' :: s => .ofLong s
  | '-' :: c :: s => .ofShort c s
  | _ => .plain

end Argument

structure Arguments where
  given : Given := {}
  pending : Option (Setting × Option String) := none
  files : List Setting := [.input, .output]
  stopped : Bool := false

namespace Arguments

def settle (a : Arguments) : Except UsageError Arguments :=
  match a.pending with
  | none => .ok a
  | some (_, none) => .error .noValue
  | some (s, some value) => (a.given.set s value).map fun given => { a with given, pending := none }

def file (a : Arguments) (arg : String) : Except UsageError Arguments :=
  match a.files with
  | [] => .error .unknown
  | s :: files => a.settle.map fun a => { a with files, pending := some (s, some arg) }

def push (a : Arguments) (arg : String) : Except UsageError Arguments :=
  if a.stopped then a.file arg
  else
    match Argument.ofWord arg with
    | .stop => .ok { a with stopped := true }
    | .option s none => a.settle.map fun a => { a with pending := some (s, none) }
    | .option s (some value) => do
      let a ← a.settle
      return { a with given := ← a.given.set s value }
    | .flag .help => a.settle.bind fun _ => .error .help
    | .flag .version => a.settle.bind fun _ => .error .version
    | .flag e => .error e
    | .plain =>
      match a.pending with
      | some (s, none) => .ok { a with pending := some (s, some arg) }
      | _ => a.file arg

end Arguments

structure CommandLine where
  input : String
  output : String
  given : Given

namespace CommandLine

def usage : String := "Usage: overdub [OPTIONS] <INPUT> <OUTPUT>

Arguments:
  <INPUT>   Primary audio (WAV)
  <OUTPUT>  Where to write the mixed audio (WAV)

Options:
  -c, --config <FILE>        TOML file with defaults; options take precedence
  -s, --subtitle <FILE>      Subtitle file (.srt, .ass or .ssa)
      --server <URL>         Base URL of the synthesis server
      --min-speed <NUMBER>
      --max-speed <NUMBER>
      --sub-volume <NUMBER>  Gain of the synthesized speech
      --aud-volume <NUMBER>  Gain of the primary audio
      --timeout <SECONDS>    Time that a request may take
      --frame-size <COUNT>   Primary frame length in samples per channel
  -h, --help
  -V, --version"

def parse (args : List String) : Except UsageError CommandLine := do
  let a ← (← args.foldlM Arguments.push {}).settle
  match a.given.input, a.given.output with
  | some input, some output => return { input, output, given := a.given }
  | _, _ => throw .missingFile

def overlay (l : CommandLine) (c : Config) : Config where
  subtitle := l.given.subtitle.getD c.subtitle
  server := l.given.server.getD c.server
  minSpeed := l.given.minSpeed.getD c.minSpeed
  maxSpeed := l.given.maxSpeed.getD c.maxSpeed
  subVolume := l.given.subVolume.getD c.subVolume
  audVolume := l.given.audVolume.getD c.audVolume
  timeout := l.given.timeout.getD c.timeout
  frameSize := l.given.frameSize.getD c.frameSize

end CommandLine

end Overdub
