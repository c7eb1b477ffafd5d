import Mixdown.Json.Encode
import Mixdown.Json.Printer
import Mixdown.Scene.Basic

/-!
# Writing scenes

Scenes are written as JSON with all of their fields, in the order in which they may also be read
from arrays.
-/

namespace Mixdown

namespace Settings

def toJson (s : Settings) : Json :=
  .ofMembers
    [("frame_count", .ofNat s.frameCount), ("sample_rate", .ofNat s.sampleRate.toNat),
      ("max_tracks", .ofNat s.maxTracks), ("ramp_frames", .ofOption .ofNat s.rampFrames?),
      ("mixer_in_format", .ofText s.mixInput.keyword),
      ("output_format", .ofText s.outputFormat.keyword), ("main_buses", .ofNat s.mainBuses),
      ("aux_buses", .ofNat s.auxBuses), ("resampler_quality", .ofText s.interpolation.keyword)]

end Settings

namespace ToneSpec

def toJson (t : ToneSpec) : Json :=
  .ofMembers
    [("frequency", .ofSingle t.frequency), ("channels", .ofNat t.channels),
      ("sample_rate", .ofNat t.sampleRate.toNat), ("seconds", .ofSingle t.seconds),
      ("amplitude", .ofSingle t.amplitude)]

end ToneSpec

namespace SourceSpec

def toJson : SourceSpec → Json
  | tone t => .ofMembers [("tone", t.toJson)]
  | file path => .ofMembers [("file", .ofMembers [("path", .ofText path)])]

end SourceSpec

namespace TrackEvent

def toJson (e : TrackEvent) : Json :=
  .ofMembers
    [("at_ms", .ofNat e.atMs.toNat), ("gain", .ofOption .ofSingle e.gain),
      ("aux_level", .ofOption .ofSingle e.auxLevel), ("ramp", .bool e.ramp),
      ("enabled", .ofOption .bool e.enabled)]

end TrackEvent

namespace TrackSpec

def toJson (t : TrackSpec) : Json :=
  .ofMembers
    [("source", t.source.toJson), ("format", .ofText t.format.keyword),
      ("looping", .bool t.looping), ("gain", .ofSingle t.gain),
      ("aux_level", .ofSingle t.auxLevel), ("bus", .ofNat t.bus),
      ("aux_bus", .ofOption .ofNat t.auxBus),
      ("mixer_format", .ofOption (fun f => .ofText (MixFormat.keyword f)) t.busFormat),
      ("downmix", .ofText t.downmix.keyword), ("start_ms", .ofNat t.startMs.toNat),
      ("events", .array (t.events.map TrackEvent.toJson))]

end TrackSpec

namespace Scene

def toJson (s : Scene) : Json :=
  .ofMembers
    [("mixer", s.settings.toJson), ("duration_ms", .ofNat s.durationMs.toNat),
      ("tracks", .array (s.tracks.map TrackSpec.toJson))]

/-- A scene to start from: a tone that fades, and a file that comes in later. -/
def sample : Scene :=
  { durationMs := 2000
    tracks :=
      [{ source := .tone { frequency := 440, seconds := 2 }
         gain := 0.5
         events := [{ atMs := 1000, gain := some 0.1, ramp := true }] },
        { source := .file "input.wav"
          format := .float
          looping := true
          auxLevel := 0.25
          auxBus := some 0
          startMs := 500 }] }

end Scene

end Mixdown
