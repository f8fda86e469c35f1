import Overdub.Text.Blank
import Overdub.Text.Split
import Overdub.Voice.Percent

/-!
Requests to the server that speaks, and what it answers.
-/

namespace Overdub

inductive VoiceError
  | request (url : String)
  | status (code : String) (url : String)
  | emptyBody (url : String)
  | invalidUrl (url : String) (reason : String)
  deriving DecidableEq, Repr

def VoiceError.message : VoiceError → String
  | .request url => s!"request error: error sending request for url ({url})"
  | .status code url => s!"server returned {code} for {url}"
  | .emptyBody url => s!"empty response body from {url}"
  | .invalidUrl url reason => s!"invalid server URL {url}: {reason}"

structure Answer where
  bytes : List UInt8
  contentType : Option String

namespace Answer

def extensions : List (List String × String) :=
  [(["audio/wav", "audio/x-wav", "audio/wave", "audio/vnd.wave"], "wav"),
    (["audio/mpeg", "audio/mp3"], "mp3"),
    (["audio/ogg", "audio/vorbis", "application/ogg"], "ogg"),
    (["audio/flac", "audio/x-flac"], "flac"),
    (["audio/aac", "audio/mp4", "audio/x-m4a"], "m4a")]

def extensionOf? (contentType : String) : Option String :=
  let essence := Text.lower (Text.trim (contentType.toList.takeWhile (· ≠ ';')))
  (extensions.find? fun e => e.1.contains (String.ofList essence)).map (·.2)

def extension? (a : Answer) : Option String := a.contentType.bind extensionOf?

end Answer

/-- The text is the last parameter of the query; `server` is taken as it is. -/
def requestUrl (server text : String) : String :=
  server ++ "text=" ++ .ofList (Percent.encode text.toUTF8.toList)

end Overdub
