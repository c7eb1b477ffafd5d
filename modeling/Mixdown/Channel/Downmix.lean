import Mixdown.Channel.Mask
import Mixdown.Channel.Stereo
import Mixdown.Single

/-!
# Downmixing to stereo

A layout of three to eight channels is reduced to two by a matrix: each position contributes to
the left and right channel with fixed gains, and the sums are held within full scale.
-/

namespace Mixdown

/-- The most channels that reach a bus. -/
def maxMixChannels : Nat := 2

/-- The most channels that a downmix reads. -/
def maxDownmixChannels : Nat := 8

/-- How a layout is reduced to stereo. -/
inductive DownmixMode where
  /-- Fold every position into the front pair. -/
  | fold
  /-- Keep the front pair and drop the other positions. -/
  | strip
deriving DecidableEq, Repr, Inhabited

namespace DownmixMode

def keyword : DownmixMode → String
  | fold => "fold"
  | strip => "strip"

def all : List DownmixMode := [fold, strip]

/-- Layouts are folded unless a track says otherwise. -/
def standard : DownmixMode := fold

/-- The single nearest to the square root of one half, three decibels below full scale. -/
def sharedGain : Float32 := Single.nearest 11863283 (-24)

open Position in
/-- What a position contributes to the left and to the right channel. -/
def gains (mode : DownmixMode) (position : UInt32) : Stereo Float32 :=
  match mode with
  | fold =>
    if position = frontLeft ∨ position = backLeft ∨ position = sideLeft ∨
        position = frontLeftOfCenter then ⟨1, 0⟩
    else if position = frontRight ∨ position = backRight ∨ position = sideRight ∨
        position = frontRightOfCenter then ⟨0, 1⟩
    else if position = frontCenter ∨ position = lowFrequency ∨ position = backCenter then
      ⟨sharedGain, sharedGain⟩
    else ⟨0, 0⟩
  | strip =>
    if position = frontLeft then ⟨1, 0⟩
    else if position = frontRight then ⟨0, 1⟩
    else ⟨0, 0⟩

end DownmixMode

/-- The gains of the channels of a layout, in channel order. -/
structure DownmixMatrix where
  gains : List (Stereo Float32)

namespace DownmixMatrix

def ofMask (mask : ChannelMask) (mode : DownmixMode) : DownmixMatrix :=
  ⟨mask.positions.map mode.gains⟩

/-- The channels of a frame that the matrix reads. -/
def inputChannels (matrix : DownmixMatrix) : Nat := matrix.gains.length

/-- One channel after another added to both sums, which start at zero. -/
def sum (matrix : DownmixMatrix) (frame : List Float32) : Stereo Float32 :=
  (frame.zip matrix.gains).foldl
    (fun acc (x, gain) => ⟨acc.left + x * gain.left, acc.right + x * gain.right⟩) ⟨0, 0⟩

/-- One frame reduced to stereo, held within full scale. -/
def apply (matrix : DownmixMatrix) (frame : List Float32) : Stereo Float32 :=
  (matrix.sum frame).map (Single.clamp (-1) 1)

/-- At most `frames` whole frames of interleaved samples reduced to stereo. -/
def applyAll (matrix : DownmixMatrix) (samples : List Float32) (frames : Nat) :
    List (Stereo Float32) :=
  (takeFrames matrix.inputChannels (min frames (samples.length / matrix.inputChannels))
    samples).map matrix.apply

end DownmixMatrix

/-- The layouts and modes that the matrix downmix covers: three to eight known positions, and to
strip a layout its front pair must be there. -/
def standardDownmix (mask : ChannelMask) (mode : DownmixMode) : Bool :=
  mask.isValid && maxMixChannels < mask.channelCount && mask.channelCount ≤ maxDownmixChannels &&
    match mode with
    | .fold => true
    | .strip => mask.contains Position.frontLeft && mask.contains Position.frontRight

/-- The downmix matrix of a covered layout. -/
def standardDownmix? (mask : ChannelMask) (mode : DownmixMode) : Option DownmixMatrix :=
  if standardDownmix mask mode then some (.ofMask mask mode) else none

end Mixdown
