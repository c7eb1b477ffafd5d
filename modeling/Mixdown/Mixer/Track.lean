import Mixdown.Gain.Ramp
import Mixdown.Mixer.Error
import Mixdown.Provider.Chain
import Mixdown.Resampler

/-!
# Tracks
-/

namespace Mixdown

/-- The channels that reach the buses of a track. -/
inductive Channels where
  | mono
  | stereo
deriving DecidableEq, Repr

namespace Channels

/-- One channel is mono, and any other number is stereo. -/
def ofCount (count : Nat) : Channels := if count = 1 then mono else stereo

def count : Channels → Nat
  | mono => 1
  | stereo => 2

end Channels

/-- A track in use. Its provider has type `σ`. -/
structure Track (σ : Type) where
  /-- A number that the caller gave the track. -/
  session : Int32
  mask : ChannelMask
  format : SampleFormat
  downmix : DownmixMode
  /-- The representation that the track is brought to before it is mixed. -/
  mixInput : MixFormat
  /-- The representation that the track asks its main bus for. -/
  busFormat : MixFormat
  /-- The rate of the frames of the provider. -/
  sampleRate : UInt32
  mainBus : Nat
  auxBus : Option Nat
  enabled : Bool
  volume : Volume
  resampler : Option Resampler
  chain : Option (Chain σ)

/-- What a track asks of the mixer. -/
structure Demands where
  channels : Channels
  /-- The track has an input rate of its own. -/
  resample : Bool
  /-- Something goes to an auxiliary bus. -/
  aux : Bool
  /-- Nothing can be heard of the track. -/
  mute : Bool
  /-- Some gain is moving. -/
  ramp : Bool
deriving DecidableEq, Repr

namespace Track

variable {σ : Type}

/-- A track at the mix rate and at unity, disabled, without a provider, on the first main bus
and on no auxiliary bus. -/
def new (settings : Settings) (mask : ChannelMask) (format : SampleFormat) (session : Int32) :
    Track σ :=
  { session, mask, format
    downmix := .standard
    mixInput := settings.mixInput
    busFormat := settings.outputFormat
    sampleRate := settings.sampleRate
    mainBus := 0
    auxBus := none
    enabled := false
    volume := .unity
    resampler := none
    chain := none }

/-- The channels left after a downmix. -/
def mixChannelCount (t : Track σ) : Nat := min t.mask.channelCount maxMixChannels

/-- The layout of the provider chain of the track. -/
def layout (t : Track σ) (maxFrames : Nat) : ChainLayout :=
  { mask := t.mask, format := t.format, mixInput := t.mixInput, maxFrames }

/-- The provider below the stages of the chain. -/
def source? (t : Track σ) : Option σ := t.chain.map Chain.source

def demands (t : Track σ) : Demands :=
  let resample := t.resampler.isSome
  let aux := t.auxBus.isSome && t.volume.sendsAux
  { channels := .ofCount t.mixChannelCount
    resample
    aux
    mute := !resample && !aux && t.volume.isSilent
    ramp := t.volume.isMoving }

/-- The frames taken from the provider that were not mixed yet. -/
def unreleased (t : Track σ) : Nat :=
  match t.resampler with
  | some r => r.unreleased
  | none => 0

end Track

end Mixdown
