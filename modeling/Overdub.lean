import Overdub.Binary64
import Overdub.Bytes
import Overdub.CommandLine
import Overdub.Config.Basic
import Overdub.Config.Toml
import Overdub.Cue
import Overdub.Dubbing.Generation
import Overdub.Dubbing.Pipeline
import Overdub.Dubbing.Record
import Overdub.FileContent
import Overdub.Main
import Overdub.Number
import Overdub.Pcm.Buffer
import Overdub.Pcm.Float
import Overdub.Pcm.Format
import Overdub.Pcm.Frame
import Overdub.Pcm.Scalar
import Overdub.Playback.Gains
import Overdub.Playback.Mixer
import Overdub.Playback.Queue
import Overdub.Proofs.Binary64
import Overdub.Proofs.Dubbing.Conservation
import Overdub.Proofs.Dubbing.Generation
import Overdub.Proofs.Dubbing.History
import Overdub.Proofs.Dubbing.Ledger
import Overdub.Proofs.Dubbing.Lifecycle
import Overdub.Proofs.Dubbing.Reach
import Overdub.Proofs.Dubbing.Safety
import Overdub.Proofs.Dubbing.Sound
import Overdub.Proofs.Number
import Overdub.Proofs.Pcm.Channel
import Overdub.Proofs.Playback.Fifo
import Overdub.Proofs.Playback.Heard
import Overdub.Proofs.Playback.Mix
import Overdub.Proofs.Playback.Overlay
import Overdub.Proofs.Speech.Converter
import Overdub.Proofs.Speech.Idle
import Overdub.Proofs.Speech.Pace
import Overdub.Proofs.Speech.Pieces
import Overdub.Proofs.Speech.Stages
import Overdub.Proofs.Speech.Stretch
import Overdub.Proofs.Time.Rescale
import Overdub.Session
import Overdub.Speech.Chunk
import Overdub.Speech.Container
import Overdub.Speech.Error
import Overdub.Speech.Fitter
import Overdub.Speech.Mark
import Overdub.Speech.Pace
import Overdub.Speech.Rate.Blocks
import Overdub.Speech.Rate.Converter
import Overdub.Speech.Rate.Kernel
import Overdub.Speech.Rate.Spectrum
import Overdub.Speech.Speed
import Overdub.Speech.Stretch
import Overdub.Speech.Utterance
import Overdub.Speech.Window
import Overdub.Subtitle.Clock
import Overdub.Subtitle.Error
import Overdub.Subtitle.SubRip
import Overdub.Subtitle.SubStation
import Overdub.Subtitle.Track
import Overdub.Text.Blank
import Overdub.Text.Canonical
import Overdub.Text.Decimal
import Overdub.Text.Float
import Overdub.Text.Mark
import Overdub.Text.Numeral
import Overdub.Text.Quoted
import Overdub.Text.Span
import Overdub.Text.Split
import Overdub.Text.Unseen
import Overdub.Time.Base
import Overdub.Time.Duration
import Overdub.Voice.Answer
import Overdub.Voice.Host
import Overdub.Voice.HostName.Direction
import Overdub.Voice.HostName.Joiner
import Overdub.Voice.HostName.Label
import Overdub.Voice.HostName.Mapping
import Overdub.Voice.HostName.Punycode
import Overdub.Voice.Percent
import Overdub.Voice.Server
import Overdub.Voice.Status
import Overdub.Voice.Url
import Overdub.Voice.Url.Path
import Overdub.Wave.Coding
import Overdub.Wave.Error
import Overdub.Wave.Header
import Overdub.Wave.Reader
import Overdub.Wave.Writer
import Overdub.Proofs.Speech.Timeline
import Overdub.Proofs.Speech.Chunking
import Overdub.Proofs.Playback.Front
import Overdub.Proofs.Dubbing.Seamless
import Overdub.Proofs.Playback.Renumber
import Overdub.Proofs.Dubbing.Renumber
import Overdub.Proofs.Dubbing.Voicing
import Overdub.Proofs.Dubbing.Isolation
import Overdub.Proofs.Dubbing.Delivery
import Overdub.Proofs.Dubbing.Breakage
import Overdub.Proofs.Time.Lag
import Overdub.Proofs.Dubbing.Punctual
import Overdub.Proofs.Bytes
import Overdub.Proofs.Wave.Coding
import Overdub.Proofs.Wave.Header
import Overdub.Proofs.Wave.Content
import Overdub.Proofs.Dubbing.Quiet
import Overdub.Proofs.Session
import Overdub.Proofs.Dubbing.Source
import Overdub.Proofs.Dubbing.Stamps
import Overdub.Proofs.Pcm.Layout
import Overdub.Proofs.Playback.Layout
import Overdub.Proofs.Dubbing.Layout
import Overdub.Proofs.Subtitle.Clock
import Overdub.Proofs.Subtitle.SubRip
import Overdub.Proofs.Text.Key
import Overdub.Proofs.Subtitle.SubStation
import Overdub.Proofs.Speech.Supply
import Overdub.Proofs.Wave.RoundTrip
import Overdub.Proofs.Playback.Whole
import Overdub.Proofs.Playback.Silence
import Overdub.Proofs.Checked
import Overdub.Proofs.Subtitle.Spelling
import Overdub.Proofs.Subtitle.Run
import Overdub.Proofs.Subtitle.Faultless
import Overdub.Proofs.Subtitle.Joined
import Overdub.Proofs.Playback.Mismatch
import Overdub.Proofs.Playback.Resume
import Overdub.Proofs.Playback.Outcomes
import Overdub.Proofs.Speech.Guarded
import Overdub.Proofs.Nearest
import Overdub.Proofs.Time.Exact
import Overdub.Proofs.Time.Duration
import Overdub.Proofs.Voice.Request
import Overdub.Proofs.Pcm.RoundTrip
import Overdub.Proofs.Pcm.Shape
import Overdub.Proofs.Pcm.Edit
import Overdub.Proofs.Pcm.Guarded
import Overdub.Proofs.Pcm.InBounds
