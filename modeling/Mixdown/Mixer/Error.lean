import Mixdown.Channel.Mask
import Mixdown.Mixer.Settings

/-!
# Why a mixer refuses a call
-/

namespace Mixdown

/-- Names a track slot. -/
abbrev Slot := Fin maxSlots

namespace Slot

/-- The bit of a slot in a set of slots. -/
def bit (slot : Slot) : UInt32 := (1 : UInt32) <<< .ofNat slot.val

def label (slot : Slot) : String := s!"track{slot.val}"

/-- All slots in ascending order. -/
def all : List Slot := List.finRange maxSlots

end Slot

/-- The name of a main or auxiliary bus in messages. -/
def busLabel (bus : Nat) : String := s!"bus{bus}"

/-- A value that was refused. -/
inductive Refusal where
  /-- An empty mask, an unknown position, or more channels than are downmixed. -/
  | channelMask (mask : ChannelMask)
  /-- More than two channels, and no downmix for the layout. -/
  | noDownmix (mask : ChannelMask)
  /-- An input rate outside of `1` to `max`. -/
  | sampleRate (rate max : UInt32)
  /-- A gain that is infinite or not a number. -/
  | gain (value : Float32)
  | bus (index : Nat)
  /-- The slot holds no track. -/
  | track (slot : Slot)
  /-- A provider that declares other frames than the track expects. -/
  | provider (channels : Nat) (format : SampleFormat)
      (expectedChannels : Nat) (expectedFormat : SampleFormat)
  | settings (fault : SettingsFault)

/-- The text of a gain that is not finite. -/
def gainLabel (gain : Float32) : String :=
  if gain.isNaN then "NaN" else if 0 < gain then "inf" else "-inf"

namespace Refusal

def message : Refusal → String
  | channelMask mask => s!"invalid channel mask {mask.label}"
  | noDownmix mask => s!"no downmixer available for channel mask {mask.label}"
  | sampleRate rate max => s!"invalid sample rate {rate.toNat} (must be in 1..={max.toNat})"
  | gain value => s!"invalid gain {gainLabel value}"
  | bus index => s!"unknown bus {busLabel index}"
  | track slot => s!"unknown track {slot.label}"
  | provider channels format expectedChannels expectedFormat =>
    s!"provider delivers {channels} channel {format.label} frames, " ++
      s!"track expects {expectedChannels} channel {expectedFormat.label}"
  | settings fault => s!"invalid mixer config: {fault.message}"

end Refusal

/-- Why a call to a mixer failed. -/
inductive MixerError where
  | refused (why : Refusal)
  /-- Every slot of the mixer holds a track. -/
  | slotsInUse (capacity : Nat)

namespace MixerError

def message : MixerError → String
  | refused why => s!"configuration error: {why.message}"
  | slotsInUse capacity => s!"all {capacity} track slots are in use"

/-- The messages of the error and of what lies behind it, outermost first. -/
def messages (error : MixerError) : List String :=
  error.message :: match error with
    | refused why => [why.message]
    | slotsInUse _ => []

end MixerError

end Mixdown
