import Mixdown.Channel.Downmix
import Mixdown.Clock
import Mixdown.Mixer.Settings

/-!
# Scenes

A scene describes a mix: the settings of the mixer, how long it lasts, and its tracks with what
they play, where they are routed and when their gains change.
-/

namespace Mixdown

/-- A sine tone, the same on every channel. -/
structure ToneSpec where
  frequency : Float32
  channels : Nat := 1
  sampleRate : UInt32 := 48000
  seconds : Float32 := 1
  amplitude : Float32 := 0.5

/-- What a track plays. -/
inductive SourceSpec where
  | tone (tone : ToneSpec)
  /-- An audio file, named from where the scene file lies. -/
  | file (path : String)

/-- A change to a track at a time. -/
structure TrackEvent where
  atMs : UInt64 := 0
  gain : Option Float32 := none
  auxLevel : Option Float32 := none
  /-- The gains move to their values instead of jumping there. -/
  ramp : Bool := false
  enabled : Option Bool := none

/-- A track of a scene. -/
structure TrackSpec where
  source : SourceSpec
  /-- The representation in which the mixer gets what the track plays. -/
  format : SampleFormat := .pcm16
  looping : Bool := false
  gain : Float32 := 1
  auxLevel : Float32 := 0
  bus : Nat := 0
  auxBus : Option Nat := none
  /-- The representation that the track asks its bus for; none for that of the settings. -/
  busFormat : Option MixFormat := none
  downmix : DownmixMode := .standard
  startMs : UInt64 := 0
  events : List TrackEvent := []

/-- A mix to be rendered. -/
structure Scene where
  settings : Settings := {}
  durationMs : UInt64 := 1000
  tracks : List TrackSpec := []

/-- Why a scene cannot be rendered. -/
inductive SceneFault where
  | settings (fault : SettingsFault)
  /-- A tone without channels or without a rate. -/
  | toneLayout (track : Nat)
  /-- A tone of no length, or with a frequency or length that is not finite. -/
  | toneLength (track : Nat)
  /-- The bus to be written is not among the main buses. -/
  | noMainBus (bus mainBuses : Nat)
  /-- An auxiliary bus is to be written, and there is none. -/
  | noAuxBus
  /-- No layout is known for the channels of what a track plays. -/
  | channelCount (track channels : Nat)
deriving DecidableEq, Repr

namespace SceneFault

def message : SceneFault → String
  | settings fault => s!"invalid mixer config: {fault.message}"
  | toneLayout track => s!"track {track} tone needs channels and a sample rate"
  | toneLength track => s!"track {track} tone needs a finite frequency and positive length"
  | noMainBus bus mainBuses =>
    s!"bus {bus} not among the scene's {mainBuses} main bus(es)"
  | noAuxBus => "scene has no aux bus"
  | channelCount track channels =>
    s!"track {track} has an unsupported channel count {channels}"

end SceneFault

namespace TrackSpec

/-- What is wrong with track number `index`, if anything is. -/
def fault? (index : Nat) (track : TrackSpec) : Option SceneFault :=
  match track.source with
  | .file _ => none
  | .tone t =>
    if t.channels = 0 ∨ t.sampleRate = 0 then some (.toneLayout index)
    else if t.frequency.isFinite && t.seconds.isFinite && 0 < t.seconds then none
    else some (.toneLength index)

end TrackSpec

namespace Scene

/-- The first thing that is wrong with a scene. -/
def fault? (scene : Scene) : Option SceneFault :=
  match scene.settings.fault? with
  | some fault => some (.settings fault)
  | none => (scene.tracks.mapIdx TrackSpec.fault?).findSome? id

/-- The blocks that cover the duration. -/
def blockCount (scene : Scene) : Nat :=
  let frames := msToFrames scene.durationMs scene.settings.sampleRate
  let size := max scene.settings.frameCount 1
  (frames + (size - 1)) / size

/-- The format in which a main bus is written: floating point if some track of the bus asks for
it, whenever that track starts. A bus without tracks has the format of the settings. -/
def busFormat (scene : Scene) (bus : Nat) : MixFormat :=
  let asked := (scene.tracks.filter (·.bus == bus)).map fun track =>
    track.busFormat.getD scene.settings.outputFormat
  if asked.isEmpty then scene.settings.outputFormat
  else if asked.contains .float then .float
  else .pcm16

end Scene

end Mixdown
