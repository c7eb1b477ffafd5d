import Mixdown.Json.Decode
import Mixdown.Scene.Basic

/-!
# Reading scenes

Scene files are JSON. Every field but what a track plays has a value when it is missing.
-/

namespace Mixdown

open Json (Field)

namespace MixFormat

def ofJson? (j : Json) : Option MixFormat := j.choice? all keyword

end MixFormat

namespace SampleFormat

def ofJson? (j : Json) : Option SampleFormat := j.choice? all keyword

end SampleFormat

namespace DownmixMode

def ofJson? (j : Json) : Option DownmixMode := j.choice? all keyword

end DownmixMode

namespace Interpolation

def ofJson? (j : Json) : Option Interpolation := j.choice? all keyword

end Interpolation

namespace ChannelMask

def ofJson? (j : Json) : Option ChannelMask := j.uint32?.map ChannelMask.mk

end ChannelMask

namespace Settings

def fields : List Field :=
  [{ name := "frame_count", aliases := ["frames"] }, { name := "sample_rate", aliases := ["rate"] },
    { name := "max_tracks" }, { name := "ramp_frames" }, { name := "mixer_in_format" },
    { name := "output_format" }, { name := "main_buses" }, { name := "aux_buses" },
    { name := "resampler_quality" }]

def ofJson? (j : Json) : Option Settings := do
  let r ← j.record? fields
  let standard : Settings := {}
  some
    { frameCount := ← r.field? "frame_count" Json.count? standard.frameCount
      sampleRate := ← r.field? "sample_rate" Json.uint32? standard.sampleRate
      maxTracks := ← r.field? "max_tracks" Json.count? standard.maxTracks
      rampFrames? := ← r.field? "ramp_frames" (Json.nullable? Json.count?) standard.rampFrames?
      mixInput := ← r.field? "mixer_in_format" MixFormat.ofJson? standard.mixInput
      outputFormat := ← r.field? "output_format" MixFormat.ofJson? standard.outputFormat
      mainBuses := ← r.field? "main_buses" Json.count? standard.mainBuses
      auxBuses := ← r.field? "aux_buses" Json.count? standard.auxBuses
      interpolation := ← r.field? "resampler_quality" Interpolation.ofJson?
        standard.interpolation }

end Settings

namespace ToneSpec

def fields : List Field :=
  [{ name := "frequency" }, { name := "channels" }, { name := "sample_rate" },
    { name := "seconds" }, { name := "amplitude" }]

def ofJson? (j : Json) : Option ToneSpec := do
  let r ← j.record? fields
  let frequency ← r.required? "frequency" Json.single?
  let standard : ToneSpec := { frequency }
  some
    { frequency
      channels := ← r.field? "channels" Json.count? standard.channels
      sampleRate := ← r.field? "sample_rate" Json.uint32? standard.sampleRate
      seconds := ← r.field? "seconds" Json.single? standard.seconds
      amplitude := ← r.field? "amplitude" Json.single? standard.amplitude }

end ToneSpec

namespace SourceSpec

def ofJson? (j : Json) : Option SourceSpec := do
  match ← j.variant? with
  | ("tone", value) => (ToneSpec.ofJson? value).map tone
  | ("file", value) =>
    let r ← value.record? [{ name := "path" }]
    (r.required? "path" Json.text?).map file
  | _ => none

end SourceSpec

namespace TrackEvent

def fields : List Field :=
  [{ name := "at_ms" }, { name := "gain" }, { name := "aux_level" }, { name := "ramp" },
    { name := "enabled" }]

def ofJson? (j : Json) : Option TrackEvent := do
  let r ← j.record? fields
  some
    { atMs := ← r.field? "at_ms" Json.uint64? 0
      gain := ← r.field? "gain" (Json.nullable? Json.gain?) none
      auxLevel := ← r.field? "aux_level" (Json.nullable? Json.gain?) none
      ramp := ← r.field? "ramp" Json.bool? false
      enabled := ← r.field? "enabled" (Json.nullable? Json.bool?) none }

end TrackEvent

namespace TrackSpec

def fields : List Field :=
  [{ name := "source" }, { name := "format" }, { name := "looping" }, { name := "gain" },
    { name := "aux_level" }, { name := "bus" }, { name := "aux_bus" }, { name := "mixer_format" },
    { name := "downmix" }, { name := "start_ms" }, { name := "events" }]

def ofJson? (j : Json) : Option TrackSpec := do
  let r ← j.record? fields
  let source ← r.required? "source" SourceSpec.ofJson?
  let standard : TrackSpec := { source }
  some
    { source
      format := ← r.field? "format" SampleFormat.ofJson? standard.format
      looping := ← r.field? "looping" Json.bool? standard.looping
      gain := ← r.field? "gain" Json.gain? standard.gain
      auxLevel := ← r.field? "aux_level" Json.gain? standard.auxLevel
      bus := ← r.field? "bus" Json.count? standard.bus
      auxBus := ← r.field? "aux_bus" (Json.nullable? Json.count?) standard.auxBus
      busFormat := ← r.field? "mixer_format" (Json.nullable? MixFormat.ofJson?)
        standard.busFormat
      downmix := ← r.field? "downmix" DownmixMode.ofJson? standard.downmix
      startMs := ← r.field? "start_ms" Json.uint64? standard.startMs
      events := ← r.field? "events" (Json.list? TrackEvent.ofJson?) standard.events }

end TrackSpec

namespace Scene

def fields : List Field :=
  [{ name := "mixer" }, { name := "duration_ms", aliases := ["duration"] }, { name := "tracks" }]

def ofJson? (j : Json) : Option Scene := do
  let r ← j.record? fields
  let standard : Scene := {}
  some
    { settings := ← r.field? "mixer" Settings.ofJson? standard.settings
      durationMs := ← r.field? "duration_ms" Json.uint64? standard.durationMs
      tracks := ← r.field? "tracks" (Json.list? TrackSpec.ofJson?) standard.tracks }

end Scene

/-- Why a text is no scene that can be rendered. -/
inductive SceneTextError where
  /-- The text is not JSON, or not of the form of a scene. -/
  | malformed
  | faulty (fault : SceneFault)

namespace Scene

/-- The scene that a text describes. -/
def parse (text : String) : Except SceneTextError Scene :=
  match (Json.parse? text).bind ofJson? with
  | none => .error .malformed
  | some scene =>
    match scene.fault? with
    | some fault => .error (.faulty fault)
    | none => .ok scene

end Scene

end Mixdown
