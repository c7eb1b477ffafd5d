import Mixdown.Provider.Basic

/-!
# Clips

A clip plays decoded samples from memory, once or in a loop. It steps back to its start lazily,
on the first request after its end was released.
-/

namespace Mixdown

/-- Samples in memory with a play position, counted in frames. -/
structure Clip where
  samples : Samples
  channels : Nat
  looping : Bool
  position : Nat
  /-- The presentation time of the last request. -/
  lastPts : Option Int

namespace Clip

/-- A clip at its first frame. A channel count of zero counts as one. -/
def ofSamples (channels : Nat) (samples : Samples) (looping : Bool) : Clip :=
  { samples, channels := max channels 1, looping, position := 0, lastPts := none }

/-- The number of whole frames. -/
def frameCount (clip : Clip) : Nat := clip.samples.size / clip.channels

/-- The frames between the position and the end. -/
def remaining (clip : Clip) : Nat := clip.frameCount - clip.position

/-- The samples of the frames from number `start` up to, but not including, number `stop`. -/
def frames (clip : Clip) (start stop : Nat) : Samples :=
  clip.samples.slice (start * clip.channels) (stop * clip.channels)

/-- A looping clip that played to its end, stepped back to its start. -/
def rewound (clip : Clip) : Clip :=
  if clip.looping ∧ clip.frameCount ≤ clip.position then { clip with position := 0 } else clip

def request (clip : Clip) (frames : Nat) (pts : Option Int) : Option Buffer × Clip :=
  let clip := { clip with lastPts := pts }.rewound
  let granted := min frames clip.remaining
  if granted = 0 then (none, clip)
  else (some ⟨granted, clip.frames clip.position (clip.position + granted)⟩, clip)

def release (clip : Clip) (frames : Nat) : Clip :=
  { clip with position := min (clip.position + frames) clip.frameCount }

instance : Provider Clip where
  channels := Clip.channels
  format clip := clip.samples.format
  request := request
  release := release

end Clip

end Mixdown
