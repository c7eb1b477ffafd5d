import Mixdown.Audio.Recording
import Mixdown.Double
import Mixdown.Scene.Basic

/-!
# Tones

A tone is computed in double precision, frame by frame, and rounded to a single once. Room for all
of its samples is taken beforehand.
-/

namespace Mixdown

/-- The size of the largest block of memory. -/
def maxBlockBytes : Nat := 0x7FFF_FFFF_FFFF_FFFF

namespace ToneSpec

/-- A full turn in radians, the double nearest to it. -/
def fullTurn : Float := .ofScientific 6283185307179586 true 15

/-- The frames in the length of the tone, a half frame counting as one. A length below zero, and
one that is not a number, counts as none. -/
def frameCount (t : ToneSpec) : Nat :=
  if 0 < t.seconds then Double.toCount (Double.ofSingle t.seconds * Float.ofNat t.sampleRate.toNat)
  else 0

/-- The angle between two frames, in radians. -/
def angleStep (t : ToneSpec) : Float :=
  fullTurn * Double.ofSingle t.frequency / Float.ofNat (max t.sampleRate.toNat 1)

/-- The value of a frame of a sine, where `step` is the angle between two frames. -/
def sine (amplitude step : Float) (frame : Nat) : Float32 :=
  Double.toSingle (amplitude * Float.sin (step * Float.ofNat frame))

/-- The samples of the tone, the same on every channel. -/
def samples (t : ToneSpec) : List Float32 :=
  let amplitude := Double.ofSingle t.amplitude
  let step := t.angleStep
  (List.range t.frameCount).flatMap fun frame =>
    List.replicate t.channels (sine amplitude step frame)

/-- The tone as a recording. There is none where its samples do not fit into one block of
memory. -/
def recording? (t : ToneSpec) : Option Recording :=
  if t.frameCount * t.channels * 4 ≤ maxBlockBytes then
    some { channels := t.channels, sampleRate := t.sampleRate, samples := t.samples }
  else none

end ToneSpec

end Mixdown
