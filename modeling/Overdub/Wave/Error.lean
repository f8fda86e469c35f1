import Overdub.Pcm.Format

/-!
What can be wrong with a wave file.
-/

namespace Overdub.Wave

inductive Flaw
  | noRiff
  | noWave
  | noFormat
  | formatSize
  | zeroChannels
  | bitsExceedContainer
  | inconsistent
  | bitsNotWhole
  | zeroBits
  | unexpectedSize
  | wideBits
  | extraSize
  | floatBits
  | extensibleSize
  | partialScalar
  | partialSample
  deriving DecidableEq, Repr

def Flaw.message : Flaw → String
  | .noRiff => "no RIFF tag found"
  | .noWave => "no WAVE tag found"
  | .noFormat => "missing fmt chunk"
  | .formatSize => "invalid fmt chunk size"
  | .zeroChannels => "file contains zero channels"
  | .bitsExceedContainer => "sample bits exceeds size of sample"
  | .inconsistent => "inconsistent fmt chunk"
  | .bitsNotWhole => "bits per sample is not a multiple of 8"
  | .zeroBits => "bits per sample is 0"
  | .unexpectedSize => "unexpected fmt chunk size"
  | .wideBits => "bits per sample is not 8 or 16"
  | .extraSize => "unexpected WAVEFORMATEX size"
  | .floatBits => "bits per sample is not 32"
  | .extensibleSize => "unexpected WAVEFORMATEXTENSIBLE size"
  | .partialScalar => "data chunk length is not a multiple of sample size"
  | .partialSample => "invalid data chunk length"

inductive FileError
  | missing
  | short
  | illFormed (flaw : Flaw)
  | unsupported
  deriving DecidableEq, Repr

def FileError.message : FileError → String
  | .missing => "No such file or directory (os error 2)"
  | .short => "Failed to read enough bytes."
  | .illFormed flaw => s!"Ill-formed WAVE file: {flaw.message}"
  | .unsupported => "The wave format of the file is not supported."

inductive Error
  | file (cause : FileError)
  | encoding (bits : Nat) (float : Bool)
  | stream (path : String) (cause : FrameError)
  | frameSize
  | doubleFloats
  | tooManyChannels (channels : Nat)
  | channelCount (found expected : Nat)
  | overflow
  deriving DecidableEq, Repr

def Error.message : Error → String
  | .file cause => s!"WAV error: {cause.message}"
  | .encoding bits float =>
    let kind := if float then "Float" else "Int"
    s!"configuration error: unsupported WAV encoding: {bits}-bit {kind}"
  | .stream path cause => s!"configuration error: {path}: {cause.message}"
  | .frameSize => "configuration error: frame_size must be positive"
  | .doubleFloats => "configuration error: WAV output cannot hold f64 samples"
  | .tooManyChannels channels =>
    s!"configuration error: {channels} channels do not fit a WAV header"
  | .channelCount found expected =>
    s!"configuration error: frame has {found} channels, output has {expected}"
  | .overflow => FrameError.overflow.message

end Overdub.Wave
