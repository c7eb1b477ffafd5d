import Mixdown.Audio.Recording
import Mixdown.Audio.SharedFile
import Mixdown.Mixer.Render
import Mixdown.Rendering.Timeline

/-!
# Rendering a scene

The tracks of a scene are added to a mixer one after another. Then block after block is mixed:
every timeline is brought to the first frame of the block, and what the chosen main bus and the
first auxiliary bus hold after the block is kept.
-/

namespace Mixdown

/-- Why a track of a scene cannot be added to a mixer. -/
inductive TrackError where
  | mixer (error : MixerError)
  | scene (fault : SceneFault)

namespace Mixer

/-- Add track number `index` of a scene, which plays `recording`, to the lowest free slot. -/
def addTrack (m : Mixer Clip) (index : Nat) (spec : TrackSpec) (recording : Recording) :
    Except TrackError (Slot × Mixer Clip) := do
  let mask ← match ChannelMask.ofChannelCount? recording.channels with
    | some mask => pure mask
    | none => throw (.scene (.channelCount index recording.channels))
  let (slot, m) ← match m.allocate mask spec.format (.ofNat index) with
    | (.ok slot, m) => pure (slot, m)
    | (.error e, _) => throw (.mixer e)
  let rate := recording.sampleRate
  let routed : Except MixerError (Mixer Clip) := do
    let m ← Answer.done (m.set slot (.downmix spec.downmix))
    let m ← Answer.done (m.attach slot (some (recording.toClip spec.format spec.looping)))
    m.setAll slot
      ((if rate = m.settings.sampleRate then [] else [.sampleRate rate]) ++
        [.mainBus spec.bus, .auxBus spec.auxBus] ++
        (spec.busFormat.map TrackSetting.busFormat).toList ++
        TrackEvent.gainSettings (some spec.gain) (some spec.auxLevel) false)
  match routed with
  | .ok m => return (slot, m)
  | .error e => throw (.mixer e)

end Mixer

namespace Block

/-- The interleaved samples as 16-bit integers. -/
def words : Block → List Int16
  | pcm16 frames => interleave frames
  | float frames => (interleave frames).map int16OfSingle

end Block

/-- A scene in the course of being rendered. -/
structure Rendering where
  mixer : Mixer Clip
  timelines : List Timeline
  /-- The main bus that is kept. -/
  bus : Nat
  /-- What the main bus held after each block. -/
  main : Array Block := #[]
  /-- What the first auxiliary bus held after each block. -/
  aux : Array (List Float32) := #[]
  /-- What ended the rendering early. -/
  failure : Option MixerError := none

namespace Rendering

/-- Bring every timeline to a frame, in the order of the tracks. -/
def advanceAll (frame : Nat) :
    List Timeline → Mixer Clip → Except MixerError (List Timeline × Mixer Clip)
  | [], m => .ok ([], m)
  | t :: rest, m => do
    let (t, m) ← t.advance frame m
    let (rest, m) ← advanceAll frame rest m
    return (t :: rest, m)

/-- The presentation time of the first frame of a block. -/
def blockTime (settings : Settings) (block : Nat) : Int :=
  block * framesToNanos settings.frameCount settings.sampleRate

/-- Mix the block with the given number, unless something failed before. -/
def renderBlock (r : Rendering) (block : Nat) : Rendering :=
  if r.failure.isSome then r
  else
    let settings := r.mixer.settings
    match advanceAll (block * settings.frameCount) r.timelines r.mixer with
    | .error e => { r with failure := some e }
    | .ok (timelines, m) =>
      let m := m.render (some (blockTime settings block))
      { r with
        mixer := m
        timelines
        main := r.main.append (m.mainBus? r.bus).toArray
        aux := r.aux.append (m.auxBus? 0).toArray }

/-- Mix a number of blocks from the first one on. -/
def renderBlocks (r : Rendering) (blocks : Nat) : Rendering :=
  (List.range blocks).foldl renderBlock r

/-- The blocks of the main bus in one format: a block in that format is kept as it is. -/
def mainSamples (format : MixFormat) (blocks : List Block) : Samples :=
  match format with
  | .pcm16 => .pcm16 (blocks.flatMap Block.words).toArray
  | .float => .float (blocks.flatMap Block.singles).toArray

/-- The main bus as a stereo wave file. -/
def mainWave (r : Rendering) (format : MixFormat) : Wave :=
  { channels := maxMixChannels
    sampleRate := r.mixer.settings.sampleRate
    samples := mainSamples format r.main.toList }

/-- The first auxiliary bus as a mono wave file of singles. -/
def auxWave (r : Rendering) : Wave :=
  { channels := 1
    sampleRate := r.mixer.settings.sampleRate
    samples := .float r.aux.toList.flatten.toArray }

/-- A file that both buses are written to. The main bus comes before the auxiliary bus with each
block and, unless something failed, at the end. -/
def sharedFile (r : Rendering) (format : MixFormat) : List UInt8 :=
  let draft (wave : Wave) : WaveDraft :=
    { wave
      blockBytes := r.mixer.settings.frameCount * wave.layout.blockBytes
      blocks := r.main.size }
  (draft (r.mainWave format)).shared (draft r.auxWave) r.failure.isNone

end Rendering

end Mixdown
