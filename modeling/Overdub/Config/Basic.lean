import Overdub.Config.Toml
import Overdub.FileContent
import Overdub.Playback.Gains
import Overdub.Speech.Speed
import Overdub.Text.Blank
import Overdub.Time.Duration
import Overdub.Voice.Percent

/-!
The configuration of a run. It is read from a document, where every key may be missing, and
checked before use.
-/

namespace Overdub

structure Config where
  subtitle : String := ""
  server : String := ""
  minSpeed : Float := 1
  maxSpeed : Float := 1.4
  subVolume : Float := 1
  audVolume : Float := 1
  timeout : Nat := 30
  frameSize : Nat := 1024

inductive ConfigFlaw
  | noSubtitle
  | noServer
  | outside (name : String) (value : Float)
  | speedsCrossed (least most : Float)
  | frameSize
  | timeout
  | malformed (path : String)
  | type (path : String) (key : String)

inductive ConfigError
  | flaw (cause : ConfigFlaw)
  | io (cause : ReadError)

def ConfigFlaw.message : ConfigFlaw → String
  | .noSubtitle => "no subtitle file specified"
  | .noServer => "no synthesis server specified"
  | .outside name value => s!"{name} = {Text.ofFloat value} is outside [0, 4]"
  | .speedsCrossed least most =>
    s!"min_speed {Text.ofFloat least} exceeds max_speed {Text.ofFloat most}"
  | .frameSize => "frame_size must be positive"
  | .timeout => "request_timeout_secs must be positive"
  | .malformed path => s!"{path}: TOML parse error"
  | .type path key => s!"{path}: invalid type for key {key}"

def ConfigError.message : ConfigError → String
  | .flaw cause => s!"configuration error: {cause.message}"
  | .io cause => s!"I/O error: {cause.message}"

namespace Config

def speeds (c : Config) : SpeedRange := ⟨c.minSpeed, c.maxSpeed⟩

def gains (c : Config) : Gains := ⟨c.audVolume, c.subVolume⟩

def requestTimeout (c : Config) : Duration := .ofParts c.timeout 0

def connectTimeout : Duration := .ofParts 10 0

def inRange (x : Float) : Bool := 0 ≤ x && x ≤ 4

def flaw? (c : Config) : Option ConfigFlaw :=
  let ranged := [("min_speed", c.minSpeed), ("max_speed", c.maxSpeed),
    ("sub_volume", c.subVolume), ("aud_volume", c.audVolume)]
  if c.subtitle.isEmpty then some .noSubtitle
  else if c.server.toList.all Text.isBlank then some .noServer
  else
    match ranged.find? (!inRange ·.2) with
    | some (name, value) => some (.outside name value)
    | none =>
      if c.maxSpeed < c.minSpeed then some (.speedsCrossed c.minSpeed c.maxSpeed)
      else if c.frameSize = 0 then some .frameSize
      else if c.timeout = 0 then some .timeout
      else none

open Toml (Value Entries)

def string? : Value → Option String
  | .string s => some s
  | _ => none

def float? : Value → Option Float
  | .float x => some x
  | .integer n => if -2 ^ 63 ≤ n ∧ n < 2 ^ 64 then some (.ofInt n) else none
  | _ => none

def word? : Value → Option Nat
  | .integer n => if 0 ≤ n ∧ n < 2 ^ 64 then some n.toNat else none
  | _ => none

def get {α : Type} (path : String) (es : Entries) (key : String) (read : Value → Option α)
    (default : α) : Except ConfigFlaw α :=
  match es.lookup key with
  | none => .ok default
  | some v =>
    match read v with
    | some a => .ok a
    | none => .error (.type path key)

def ofEntries (path : String) (es : Entries) : Except ConfigFlaw Config := do
  let d : Config := {}
  return {
    subtitle := ← get path es "subtitle" string? d.subtitle
    server := ← get path es "server" string? d.server
    minSpeed := ← get path es "min_speed" float? d.minSpeed
    maxSpeed := ← get path es "max_speed" float? d.maxSpeed
    subVolume := ← get path es "sub_volume" float? d.subVolume
    audVolume := ← get path es "aud_volume" float? d.audVolume
    timeout := ← get path es "request_timeout_secs" word? d.timeout
    frameSize := ← get path es "frame_size" word? d.frameSize }

def ofText (path : String) (text : String) : Except ConfigFlaw Config :=
  match Toml.parse? text.toList with
  | none => .error (.malformed path)
  | some es => ofEntries path es

def load (path : String) (file : FileContent) : Except ConfigError Config :=
  match file.text with
  | .error e => .error (.io e)
  | .ok text => (ofText path text).mapError .flaw

def quoteChar (c : Char) : List Char :=
  if c = '"' || c = '\\' then ['\\', c]
  else if Toml.isControl c || c = '\t' then
    "\\u00".toList ++ [Percent.digit (c.toNat / 16), Percent.digit (c.toNat % 16)]
  else [c]

def quote (s : String) : String := .ofList ('"' :: s.toList.flatMap quoteChar ++ ['"'])

def renderFloat (x : Float) : String :=
  let text := Text.ofFloat x
  if x.isNaN then "nan" else if x.isInf || text.contains '.' then text else text ++ ".0"

def render (c : Config) : String :=
  "\n".intercalate [
    s!"subtitle = {quote c.subtitle}",
    s!"server = {quote c.server}",
    s!"min_speed = {renderFloat c.minSpeed}",
    s!"max_speed = {renderFloat c.maxSpeed}",
    s!"sub_volume = {renderFloat c.subVolume}",
    s!"aud_volume = {renderFloat c.audVolume}",
    s!"request_timeout_secs = {c.timeout}",
    s!"frame_size = {c.frameSize}"]

/-- Equal as values: what is not a number is not even equal to itself. -/
def equals (c d : Config) : Bool :=
  c.subtitle == d.subtitle && c.server == d.server && c.minSpeed == d.minSpeed &&
    c.maxSpeed == d.maxSpeed && c.subVolume == d.subVolume && c.audVolume == d.audVolume &&
    c.timeout == d.timeout && c.frameSize == d.frameSize

end Config

end Overdub
