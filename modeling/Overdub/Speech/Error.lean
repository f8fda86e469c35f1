import Overdub.Pcm.Format
import Overdub.Text.Decimal

/-!
Why speech cannot be opened, decoded or fitted to a stream.
-/

namespace Overdub

inductive FitError
  | zeroRate
  | zeroChannels
  | speed (speed : Float)
  | inputFormat (rate channels foundRate foundChannels : Nat)
  | overflow

def FitError.message : FitError → String
  | .zeroRate => "sample rate must be positive"
  | .zeroChannels => "channel count must be positive"
  | .speed x => s!"time-stretch speed {Text.ofFloat x} is not a positive finite number"
  | .inputFormat rate channels foundRate foundChannels =>
    s!"input is {foundRate} Hz x{foundChannels}, chain was built for {rate} Hz x{channels}"
  | .overflow => "attempt to add with overflow"

inductive ContainerError
  | endOfStream
  | unknown
  | notWave
  | noData
  | format
  | subformat
  | chunkTooLong
  | formatSize
  | factSize
  | listSize
  | pcmSize
  | pcmBits
  | floatSize
  | floatExtra
  | floatBits
  | adpcmBits
  | extensibleSize
  | extensibleExtra
  | containerBits
  | validBits
  | extensiblePcmBits
  | extensibleFloatValidBits
  | extensibleFloatBits
  | channelMask
  | channelCount
  deriving DecidableEq, Repr

namespace ContainerError

def unsupported (what : String) : String := s!"unsupported feature: {what}"

def malformed (what : String) : String := s!"malformed stream: {what}"

def message : ContainerError → String
  | .endOfStream => "end of stream"
  | .unknown => unsupported "core (probe): no suitable format reader found"
  | .notWave => unsupported "wav: riff form is not wave"
  | .noData => unsupported "wav: missing data chunk"
  | .format => unsupported "wav: unsupported wave format"
  | .subformat => unsupported "wav: unsupported fmt_ext sub-type"
  | .chunkTooLong => malformed "riff: chunk length exceeds parent (list) chunk length"
  | .formatSize => malformed "wav: malformed fmt chunk"
  | .factSize => malformed "wav: malformed fact chunk"
  | .listSize => malformed "wav: malformed list chunk"
  | .pcmSize => malformed "wav: malformed fmt_pcm chunk"
  | .pcmBits => malformed "wav: bits per sample for fmt_pcm must be 8, 16, 24 or 32 bits"
  | .floatSize => malformed "wav: malformed fmt_ieee chunk"
  | .floatExtra => malformed "wav: extra data not expected for fmt_ieee chunk"
  | .floatBits => malformed "wav: bits per sample for fmt_ieee must be 32 or 64 bits"
  | .adpcmBits => malformed "wav: bits per sample for fmt_adpcm must be 4 bits"
  | .extensibleSize => malformed "wav: malformed fmt_ext chunk"
  | .extensibleExtra => malformed "wav: extra data size not 22 bytes for fmt_ext chunk"
  | .containerBits =>
    malformed "wav: bits per coded sample for fmt_ext must be a multiple of 8"
  | .validBits => malformed "wav: bits per sample must be <= bits per coded sample for fmt_ext"
  | .extensiblePcmBits =>
    malformed "wav: bits per sample for fmt_ext PCM sub-type must be <= 32 bits"
  | .extensibleFloatValidBits =>
    malformed "wav: bits per sample for fmt_ext IEEE sub-type must equal bits per coded sample"
  | .extensibleFloatBits =>
    malformed "wav: bits per sample for fmt_ext IEEE sub-type must be 32 or 64 bits"
  | .channelMask => unsupported "wav: too many channels in mask for fmt_ext"
  | .channelCount => malformed "riff: invalid channel count"

end ContainerError

inductive DecodeError
  | container (cause : ContainerError)
  | noTrack
  | noRate
  | noChannels
  | zeroBlock
  | corrupt
  | fit (cause : FitError)
  | frame (cause : FrameError)

def DecodeError.message : DecodeError → String
  | .container cause => s!"cannot open synthesized audio: {cause.message}"
  | .noTrack => "no decodable audio track"
  | .noRate => "audio track has no sample rate"
  | .noChannels => "audio track has no channel layout"
  | .zeroBlock => "decoding failed: malformed stream: riff: block size is 0"
  | .corrupt => "decoding failed: malformed stream: corrupt packet"
  | .fit cause => cause.message
  | .frame cause => cause.message

end Overdub
