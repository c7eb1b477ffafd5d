import Mixdown.Gain.Basic
import Mixdown.Mixer.Basic

/-!
# Configuring a mixer

Every call answers a result and the mixer after the call, whether or not it succeeded. A call
that changes what the plan depends on drops the plan; writing the value that a track has already
changes nothing.
-/

namespace Mixdown

/-- A setting of a track. -/
inductive TrackSetting where
  | mask (mask : ChannelMask)
  | format (format : SampleFormat)
  | mainBus (bus : Nat)
  | auxBus (bus : Option Nat)
  | downmix (mode : DownmixMode)
  /-- The representation that the track asks its main bus for. -/
  | busFormat (format : MixFormat)
  /-- The rate of the frames of the provider. -/
  | sampleRate (rate : UInt32)
  /-- Drop the frames that the resampler has staged. -/
  | restart
  /-- Go back to the mix rate and drop the resampler. -/
  | mixRate
  /-- A gain that is reached at once, or in the frames that the settings of the mixer name. -/
  | gain (name : GainName) (value : Float32) (ramped : Bool)

namespace Mixer

variable {σ : Type}

/-- A call to a mixer: its result and the mixer after it. -/
abbrev Answer (σ α : Type) := Except MixerError α × Mixer σ

/-- The factory supports the layout. -/
def supportsDownmix (m : Mixer σ) (mask : ChannelMask) (mode : DownmixMode) : Bool :=
  match m.factory with
  | some factory => factory.supports mask mode
  | none => false

/-- Why a layout cannot be used, if it cannot. -/
def maskRefusal? (m : Mixer σ) (mask : ChannelMask) (mode : DownmixMode) : Option Refusal :=
  if !mask.isValid || maxDownmixChannels < mask.channelCount then some (.channelMask mask)
  else if maxMixChannels < mask.channelCount && !m.supportsDownmix mask mode then
    some (.noDownmix mask)
  else none

/-- Take the lowest free slot for a new track. -/
def allocate (m : Mixer σ) (mask : ChannelMask) (format : SampleFormat) (session : Int32) :
    Answer σ Slot :=
  match m.maskRefusal? mask .standard with
  | some why => (.error (.refused why), m)
  | none =>
    match Slot.all.find? fun slot =>
        slot.val < m.settings.maxTracks && (m.track? slot).isNone with
    | none => (.error (.slotsInUse m.settings.maxTracks), m)
    | some slot =>
      (.ok slot, m.setTrack slot (some (.new m.settings mask format session)))

/-- Act on the track in a slot, which has to be in use. -/
def withTrack {α : Type} (m : Mixer σ) (slot : Slot) (act : Track σ → Answer σ α) :
    Answer σ α :=
  match m.track? slot with
  | some t => act t
  | none => (.error (.refused (.track slot)), m)

/-- Free a slot; its provider is handed back. -/
def free (m : Mixer σ) (slot : Slot) : Answer σ (Option σ) :=
  m.withTrack slot fun t => (.ok t.source?, (m.setTrack slot none).invalidated)

/-- Let a track take part in the blocks, or not. Its provider is left alone. -/
def setEnabled (m : Mixer σ) (slot : Slot) (enabled : Bool) : Answer σ Unit :=
  m.withTrack slot fun t =>
    if t.enabled = enabled then (.ok (), m)
    else (.ok (), (m.setTrack slot (some { t with enabled })).invalidated)

def enable (m : Mixer σ) (slot : Slot) : Answer σ Unit := m.setEnabled slot true

def disable (m : Mixer σ) (slot : Slot) : Answer σ Unit := m.setEnabled slot false

/-- Try to build the downmix of a layout; an attempt is counted whether it succeeds or not. -/
def buildDownmix (m : Mixer σ) (mask : ChannelMask) (mode : DownmixMode) :
    Option DownmixMatrix × Mixer σ :=
  match m.factory with
  | none => (none, m)
  | some factory =>
    (if factory.supports mask mode && factory.succeeds m.attempts then some (.ofMask mask mode)
      else none,
      { m with attempts := m.attempts + 1 })

variable [Provider σ]

/-- Why a provider cannot feed a layout, if it cannot. -/
def misfit? (layout : ChainLayout) (source : σ) : Option Refusal :=
  let channels := Provider.channels source
  let format := Provider.format source
  if layout.fits channels format then none
  else some (.provider channels format layout.mask.channelCount layout.format)

/-- Build the chain of a layout around a provider. -/
def buildChain (m : Mixer σ) (source : σ) (layout : ChainLayout) (mode : DownmixMode) :
    Except Refusal (Chain σ) × Mixer σ :=
  match misfit? layout source with
  | some why => (.error why, m)
  | none =>
    if layout.needsDownmix then
      match m.buildDownmix layout.mask mode with
      | (some matrix, m) => (.ok (.throughMatrix source layout matrix), m)
      | (none, m) => (.error (.noDownmix layout.mask), m)
    else (.ok (.plain source layout), m)

/-- Attach a provider to a track, or detach the one it has, which is handed back. When a
provider cannot be attached, the one before it stays. -/
def attach (m : Mixer σ) (slot : Slot) (source : Option σ) : Answer σ (Option σ) :=
  m.withTrack slot fun t =>
    let replace (m : Mixer σ) (chain : Option (Chain σ)) : Answer σ (Option σ) :=
      (.ok t.source?, (m.setTrack slot (some { t with chain })).invalidated)
    match source with
    | none => replace m none
    | some source =>
      match m.buildChain source (t.layout m.settings.frameCount) t.downmix with
      | (.ok chain, m) => replace m (some chain)
      | (.error why, m) => (.error (.refused why), m)

/-- Put a changed track into its slot with its chain built anew around its provider. When the
chain cannot be built, the track is left without a provider. -/
def rebuild (m : Mixer σ) (slot : Slot) (t : Track σ) : Except Refusal Unit × Mixer σ :=
  match t.source? with
  | none => (.ok (), m.setTrack slot (some t))
  | some source =>
    match m.buildChain source (t.layout m.settings.frameCount) t.downmix with
    | (.ok chain, m) => (.ok (), m.setTrack slot (some { t with chain := some chain }))
    | (.error why, m) => (.error why, m.setTrack slot (some { t with chain := none }))

/-- Why the attached provider cannot feed a track with another mask or format, if it cannot. -/
def misfitAfter? (t : Track σ) (mask : ChannelMask) (format : SampleFormat) : Option Refusal :=
  t.source?.bind (misfit? { t.layout 0 with mask, format })

/-- The track with another mask. A resampler for another number of channels starts afresh. -/
def withMask (settings : Settings) (t : Track σ) (mask : ChannelMask) : Track σ :=
  let changed := { t with mask }
  if changed.mixChannelCount = t.mixChannelCount then changed
  else
    { changed with
      resampler := t.resampler.map fun r =>
        .new r.quality changed.mixChannelCount r.inputRate r.outputRate settings.frameCount }

/-- The track with another input rate. Its resampler goes on at the new rate. -/
def withRate (settings : Settings) (t : Track σ) (rate : UInt32) : Track σ :=
  { t with
    sampleRate := rate
    resampler := some (match t.resampler with
      | some r => r.setInputRate rate
      | none => .new settings.interpolation t.mixChannelCount rate settings.sampleRate
          settings.frameCount) }

/-- Write a setting. The result says whether a new plan is needed. -/
def write (m : Mixer σ) (slot : Slot) (t : Track σ) (setting : TrackSetting) :
    Except Refusal Bool × Mixer σ :=
  let put (t : Track σ) (changed : Bool) : Except Refusal Bool × Mixer σ :=
    (.ok changed, m.setTrack slot (some t))
  let rebuilt (t : Track σ) : Except Refusal Bool × Mixer σ :=
    match m.rebuild slot t with
    | (.ok (), m) => (.ok true, m)
    | (.error why, m) => (.error why, m)
  match setting with
  | .mask mask =>
    match m.maskRefusal? mask t.downmix with
    | some why => (.error why, m)
    | none =>
      if t.mask = mask then (.ok false, m)
      else match misfitAfter? t mask t.format with
        | some why => (.error why, m)
        | none => rebuilt (withMask m.settings t mask)
  | .format format =>
    if t.format = format then (.ok false, m)
    else match misfitAfter? t t.mask format with
      | some why => (.error why, m)
      | none => rebuilt { t with format }
  | .mainBus bus =>
    if bus < m.mainBuses.length then put { t with mainBus := bus } (t.mainBus != bus)
    else (.error (.bus bus), m)
  | .auxBus none => put { t with auxBus := none } (t.auxBus != none)
  | .auxBus (some bus) =>
    if bus < m.auxBuses.length then put { t with auxBus := some bus } (t.auxBus != some bus)
    else (.error (.bus bus), m)
  | .downmix mode =>
    if t.downmix = mode then (.ok false, m)
    else match m.maskRefusal? t.mask mode with
      | some why => (.error why, m)
      | none =>
        let t := { t with downmix := mode }
        if maxMixChannels < t.mask.channelCount then rebuilt t else put t true
  | .busFormat format => put { t with busFormat := format } (t.busFormat != format)
  | .sampleRate rate =>
    let max := m.settings.maxTrackRate
    if rate = 0 ∨ max < rate then (.error (.sampleRate rate max), m)
    else if t.sampleRate = rate then (.ok false, m)
    else put (withRate m.settings t rate) true
  | .restart => put { t with resampler := t.resampler.map Resampler.reset } false
  | .mixRate =>
    put { t with sampleRate := m.settings.sampleRate, resampler := none } t.resampler.isSome
  | .gain name value ramped =>
    match clampTrackGain? value with
    | none => (.error (.gain value), m)
    | some gain =>
      let frames := if ramped then m.settings.rampFrames else 0
      let move (r : Ramp) : Ramp := if frames = 0 then r.set gain else r.moveTo gain frames
      let changed := { t with volume := t.volume.modify name move }
      put changed (changed.demands != t.demands)

/-- Write a setting of a track. A refused write drops the plan, too. -/
def set (m : Mixer σ) (slot : Slot) (setting : TrackSetting) : Answer σ Unit :=
  m.withTrack slot fun t =>
    match m.write slot t setting with
    | (.ok false, m) => (.ok (), m)
    | (.ok true, m) => (.ok (), m.invalidated)
    | (.error why, m) => (.error (.refused why), m.invalidated)

end Mixer

end Mixdown
