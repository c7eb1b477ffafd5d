import Mixdown.Resampler
import Mixdown.Sample.Format

/-!
# Mixer settings
-/

namespace Mixdown

/-- The most track slots that a mixer has. -/
def maxSlots : Nat := 32

/-- What a mixer is built from. -/
structure Settings where
  /-- The frames of a block. -/
  frameCount : Nat := 256
  /-- The rate at which frames are mixed, in frames a second. -/
  sampleRate : UInt32 := 48000
  /-- The track slots that may be used. -/
  maxTracks : Nat := maxSlots
  /-- The frames that a gain takes to move, where it is not a block. -/
  rampFrames? : Option Nat := none
  /-- The representation that tracks are brought to before they are mixed. -/
  mixInput : MixFormat := .float
  /-- The bus format that a new track asks for. -/
  outputFormat : MixFormat := .pcm16
  mainBuses : Nat := 1
  auxBuses : Nat := 1
  interpolation : Interpolation := .linear
deriving DecidableEq, Repr

/-- Why no mixer can be built from some settings. -/
inductive SettingsFault where
  | frameCount
  | sampleRate
  | maxTracks (given : Nat)
  | mainBuses
deriving DecidableEq, Repr

namespace SettingsFault

def message : SettingsFault → String
  | frameCount => "frame_count must be positive"
  | sampleRate => "sample_rate must be positive"
  | maxTracks given => s!"max_tracks must be in 1..={maxSlots}, got {given}"
  | mainBuses => "at least one main bus is required"

end SettingsFault

namespace Settings

/-- The frames that a gain takes to move. -/
def rampFrames (s : Settings) : Nat := s.rampFrames?.getD s.frameCount

/-- The first thing that is wrong with the settings. -/
def fault? (s : Settings) : Option SettingsFault :=
  if s.frameCount = 0 then some .frameCount
  else if s.sampleRate = 0 then some .sampleRate
  else if s.maxTracks = 0 ∨ maxSlots < s.maxTracks then some (.maxTracks s.maxTracks)
  else if s.mainBuses = 0 then some .mainBuses
  else none

/-- The highest input rate of a track: twice the mix rate, as far as a rate goes. -/
def maxTrackRate (s : Settings) : UInt32 :=
  .ofNat (min (s.sampleRate.toNat * maxRateRatio) (UInt32.size - 1))

end Settings

end Mixdown
