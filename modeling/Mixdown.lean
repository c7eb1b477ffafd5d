import Mixdown.Audio.Chunk
import Mixdown.Audio.LittleEndian
import Mixdown.Audio.Recording
import Mixdown.Audio.SharedFile
import Mixdown.Audio.Tone
import Mixdown.Audio.Wave
import Mixdown.Audio.WaveImport
import Mixdown.Audio.WaveLayout
import Mixdown.Channel.Downmix
import Mixdown.Channel.Mask
import Mixdown.Channel.Stereo
import Mixdown.Clock
import Mixdown.CommandLine.Grammar
import Mixdown.CommandLine.Request
import Mixdown.CommandLine.Run
import Mixdown.CommandLine.Scan
import Mixdown.Double
import Mixdown.Gain.Basic
import Mixdown.Gain.Ramp
import Mixdown.Gain.Text
import Mixdown.Host.Basic
import Mixdown.Host.Memory
import Mixdown.Json.Basic
import Mixdown.Json.Decode
import Mixdown.Json.Encode
import Mixdown.Json.Printer
import Mixdown.Json.Reader
import Mixdown.Main
import Mixdown.Mixer.Basic
import Mixdown.Mixer.Block
import Mixdown.Mixer.Configure
import Mixdown.Mixer.Console
import Mixdown.Mixer.Error
import Mixdown.Mixer.Kernel
import Mixdown.Mixer.Plan
import Mixdown.Mixer.Render
import Mixdown.Mixer.Settings
import Mixdown.Mixer.Track
import Mixdown.Proofs.Bounds.Blocks
import Mixdown.Proofs.Bounds.Buffers
import Mixdown.Proofs.Bounds.Checks
import Mixdown.Proofs.Bounds.Kernels
import Mixdown.Proofs.Bounds.Resampling
import Mixdown.Proofs.Bounds.Stages
import Mixdown.Proofs.Gain.Bounds
import Mixdown.Proofs.Gain.Course
import Mixdown.Proofs.Gain.Frames
import Mixdown.Proofs.Gain.Monotone
import Mixdown.Proofs.Gain.Settled
import Mixdown.Proofs.Gain.Skipping
import Mixdown.Proofs.Mixer.Actions
import Mixdown.Proofs.Mixer.BusBlocks
import Mixdown.Proofs.Mixer.Console
import Mixdown.Proofs.Mixer.Custody
import Mixdown.Proofs.Mixer.DryBlocks
import Mixdown.Proofs.Mixer.Following
import Mixdown.Proofs.Mixer.FrameLedger
import Mixdown.Proofs.Mixer.GainRange
import Mixdown.Proofs.Mixer.GainWrites
import Mixdown.Proofs.Mixer.KeepingTime
import Mixdown.Proofs.Mixer.Layers
import Mixdown.Proofs.Mixer.Leftovers
import Mixdown.Proofs.Mixer.Mapping
import Mixdown.Proofs.Mixer.Pace
import Mixdown.Proofs.Mixer.Parallel
import Mixdown.Proofs.Mixer.Planning
import Mixdown.Proofs.Mixer.ProviderCalls
import Mixdown.Proofs.Mixer.RampTime
import Mixdown.Proofs.Mixer.RateHistory
import Mixdown.Proofs.Mixer.ReferenceMix
import Mixdown.Proofs.Mixer.Refusals
import Mixdown.Proofs.Mixer.Rendering
import Mixdown.Proofs.Mixer.Repetition
import Mixdown.Proofs.Mixer.Routes
import Mixdown.Proofs.Mixer.Separation
import Mixdown.Proofs.Mixer.SingleTrack
import Mixdown.Proofs.Mixer.Slots
import Mixdown.Proofs.Mixer.Sources
import Mixdown.Proofs.Mixer.Standby
import Mixdown.Proofs.Mixer.Standing
import Mixdown.Proofs.Mixer.TaskSums
import Mixdown.Proofs.Mixer.Tasks
import Mixdown.Proofs.Mixer.UnityMix
import Mixdown.Proofs.Mixer.UpToDate
import Mixdown.Proofs.Mixer.Upkeep
import Mixdown.Proofs.Mixer.WellFormed
import Mixdown.Proofs.Provider.Conversation
import Mixdown.Proofs.Provider.Delivery
import Mixdown.Proofs.Provider.FrameQueue
import Mixdown.Proofs.Provider.Honest
import Mixdown.Proofs.Provider.Image
import Mixdown.Proofs.Provider.Leftovers
import Mixdown.Proofs.Provider.Loops
import Mixdown.Proofs.Provider.Moves
import Mixdown.Proofs.Provider.Pace
import Mixdown.Proofs.Provider.Playback
import Mixdown.Proofs.Provider.Protocol
import Mixdown.Proofs.Provider.Stages
import Mixdown.Proofs.Provider.Streams
import Mixdown.Proofs.Provider.Supply
import Mixdown.Proofs.Provider.Tape
import Mixdown.Proofs.Provider.Voice
import Mixdown.Proofs.Rendering.Admission
import Mixdown.Proofs.Rendering.Agenda
import Mixdown.Proofs.Rendering.BlockTimes
import Mixdown.Proofs.Rendering.Conducting
import Mixdown.Proofs.Rendering.MainFile
import Mixdown.Proofs.Rendering.Overtaking
import Mixdown.Proofs.Rendering.Routing
import Mixdown.Proofs.Rendering.SceneTimes
import Mixdown.Proofs.Rendering.Streaming
import Mixdown.Proofs.Resampler.Accounting
import Mixdown.Proofs.Resampler.EqualRates
import Mixdown.Proofs.Resampler.Interpolation
import Mixdown.Proofs.Resampler.Leftovers
import Mixdown.Proofs.Resampler.Rounds
import Mixdown.Proofs.Resampler.Session
import Mixdown.Proofs.Resampler.Staging
import Mixdown.Proofs.Sample.Exact
import Mixdown.Proofs.Sample.Lossless
import Mixdown.Proofs.Single.Arithmetic
import Mixdown.Proofs.Single.Nearest
import Mixdown.Proofs.Single.Packing
import Mixdown.Proofs.Single.Rounding
import Mixdown.Proofs.Single.Values
import Mixdown.Provider.Basic
import Mixdown.Provider.Chain
import Mixdown.Provider.Clip
import Mixdown.Provider.Downmixing
import Mixdown.Provider.FrameQueue
import Mixdown.Provider.Recorded
import Mixdown.Provider.Reformat
import Mixdown.Provider.RingBuffer
import Mixdown.Provider.Script
import Mixdown.Provider.Source
import Mixdown.Rendering.Basic
import Mixdown.Rendering.Timeline
import Mixdown.Resampler
import Mixdown.Sample.Format
import Mixdown.Sample.Samples
import Mixdown.Sample.Scalar
import Mixdown.Scene.Basic
import Mixdown.Scene.Reader
import Mixdown.Scene.Writer
import Mixdown.Single
import Mixdown.Single.Decimal
import Mixdown.Single.Shortest
import Mixdown.Stream
