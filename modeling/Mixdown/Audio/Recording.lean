import Mixdown.Provider.Clip

/-!
# Recordings

A recording is sound in memory as interleaved singles, decoded from a file or synthesised. A
track plays it as a clip in a representation of its choice.
-/

namespace Mixdown

/-- Interleaved singles with their layout. -/
structure Recording where
  channels : Nat
  sampleRate : UInt32
  samples : List Float32

namespace Recording

/-- The number of whole frames. Without channels every sample counts as a frame. -/
def frameCount (r : Recording) : Nat := r.samples.length / max r.channels 1

/-- A clip of the recording at its first frame. -/
def toClip (r : Recording) (format : SampleFormat) (looping : Bool) : Clip :=
  .ofSamples r.channels (.ofSingles format r.samples) looping

@[simp] theorem format_toClip (r : Recording) (format : SampleFormat) (looping : Bool) :
    (r.toClip format looping).samples.format = format := by
  simp [toClip, Clip.ofSamples]

end Recording

end Mixdown
