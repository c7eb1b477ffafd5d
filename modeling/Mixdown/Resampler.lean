import Mixdown.Channel.Stereo
import Mixdown.Clock
import Mixdown.Provider.Basic

/-!
# Sample-rate conversion

A resampler reads frames from a provider into a staging buffer and interpolates between them at
a position that moves by a fixed-point step of 32 fractional bits for each frame produced.
Frames are released to the provider as soon as they are staged.

The staging buffer has a fixed size. Before it is filled, the frames that lie behind the position
(but for the history that the interpolation needs) are dropped from its start.
-/

namespace Mixdown

/-- The highest ratio of an input rate to the output rate that a track may have. -/
def maxRateRatio : Nat := 2

/-- How values between input frames are found. -/
inductive Interpolation where
  /-- On the line through the two neighbours. -/
  | linear
  /-- On the Catmull-Rom curve through the four neighbours. -/
  | cubic
deriving DecidableEq, Repr, Inhabited

namespace Interpolation

def keyword : Interpolation → String
  | linear => "linear"
  | cubic => "cubic"

def all : List Interpolation := [linear, cubic]

def standard : Interpolation := linear

/-- The frames that are kept behind the position. -/
def history : Interpolation → Nat
  | linear => 0
  | cubic => 1

/-- The frames that are needed ahead of the position. -/
def lookahead : Interpolation → Nat
  | linear => 1
  | cubic => 2

/-- The value at `t` between `a` (at zero) and `b` (at one). -/
def line (a b t : Float32) : Float32 := a + (b - a) * t

/-- The value at `t` between `p1` (at zero) and `p2` (at one) on the curve through all four. -/
def curve (p0 p1 p2 p3 t : Float32) : Float32 :=
  let a0 := -0.5 * p0 + 1.5 * p1 - 1.5 * p2 + 0.5 * p3
  let a1 := p0 - 2.5 * p1 + 2 * p2 - 0.5 * p3
  let a2 := -0.5 * p0 + 0.5 * p2
  ((a0 * t + a1) * t + a2) * t + p1

/-- The value at `t` after frame number `index` of one channel, whose samples are `x`. -/
def value (quality : Interpolation) (x : Nat → Float32) (index : Nat) (t : Float32) : Float32 :=
  match quality with
  | linear => line (x index) (x (index + 1)) t
  | cubic => curve (x (index - 1)) (x index) (x (index + 1)) (x (index + 2)) t

end Interpolation

/-- One frame in the units of the position. -/
def phaseUnit : Nat := 0x1_0000_0000

/-- The step of the position, in units of `2 ^ -32` frames, for each frame produced. -/
def phaseIncrement (inputRate outputRate : UInt32) : Nat :=
  inputRate.toNat * phaseUnit / max outputRate.toNat 1

/-- A sample-rate converter for interleaved frames. -/
structure Resampler where
  quality : Interpolation
  channels : Nat
  inputRate : UInt32
  outputRate : UInt32
  increment : Nat
  /-- The part of the position behind the point, in units of `2 ^ -32` frames. -/
  fraction : Nat
  /-- The staging buffer, which holds `capacity` frames. -/
  staging : Array Float32
  capacity : Nat
  /-- The frames in the staging buffer, history included. -/
  staged : Nat
  /-- The frame of the staging buffer that the position lies at or after. -/
  index : Nat

namespace Resampler

/-- A resampler at the start of its input, for blocks of up to `maxFrames` frames. A channel
count and a block size of zero count as one. -/
def new (quality : Interpolation) (channels : Nat) (inputRate outputRate : UInt32)
    (maxFrames : Nat) : Resampler :=
  let channels := max channels 1
  let capacity := max maxFrames 1 * maxRateRatio + quality.history + quality.lookahead + 1
  { quality, channels, inputRate, outputRate
    increment := phaseIncrement inputRate outputRate
    fraction := 0
    staging := Array.replicate (capacity * channels) 0
    capacity
    staged := quality.history
    index := quality.history }

/-- Change the input rate. The position and the staged frames stay. -/
def setInputRate (r : Resampler) (rate : UInt32) : Resampler :=
  { r with inputRate := rate, increment := phaseIncrement rate r.outputRate }

/-- Drop the staged frames and go back to a silent start. -/
def reset (r : Resampler) : Resampler :=
  { r with
    staging := (overlay (List.replicate (r.quality.history * r.channels) 0)
      r.staging.toList).toArray
    staged := r.quality.history
    index := r.quality.history
    fraction := 0 }

/-- The frames taken from the provider that the position has not passed. -/
def unreleased (r : Resampler) : Nat := r.staged - r.index

/-- A frame can be interpolated at the position. -/
def ready (r : Resampler) : Bool := r.index + r.quality.lookahead < r.staged

/-- The staged samples of one channel, by frame. -/
def sample (r : Resampler) (channel frame : Nat) : Float32 :=
  r.staging.getD (frame * r.channels + channel) 0

/-- The frame at the position. -/
def frame (r : Resampler) : List Float32 :=
  (List.range r.channels).map fun channel =>
    r.quality.value (r.sample channel) r.index (Single.nearest r.fraction (-32))

/-- The position moved on by one output frame. -/
def step (r : Resampler) : Resampler :=
  let phase := r.fraction + r.increment
  { r with index := r.index + phase / phaseUnit, fraction := phase % phaseUnit }

/-- The staging buffer without the frames that the position has left behind. -/
def compact (r : Resampler) : Resampler :=
  let dropped := min (r.index - r.quality.history) r.staged
  let kept := r.staging.toList.extract (dropped * r.channels) (r.staged * r.channels)
  { r with
    staging := (overlay kept r.staging.toList).toArray
    staged := r.staged - dropped
    index := r.index - dropped }

/-- The frames that still fit into the staging buffer. -/
def room (r : Resampler) : Nat := r.capacity - r.staged

/-- The frames that a buffer adds to the staged ones: as many as it claims and as fit. Where it
holds fewer samples than it claims, what the staging buffer held before stays. -/
def stage (r : Resampler) (buffer : Buffer) : Nat × Resampler :=
  let granted := min buffer.frames r.room
  let fresh := buffer.samples.singles.take (granted * r.channels)
  let start := r.staged * r.channels
  let held := r.staging.toList
  (granted, { r with
    staging := (held.take start ++ overlay fresh (held.drop start)).toArray
    staged := r.staged + granted })

variable {σ : Type} [Provider σ]

/-- Ask the provider for as many frames as fit, and stage and release what it grants. The first
component says that at least one frame came. -/
def fill (r : Resampler) (source : σ) (pts : Option Int) : Bool × Resampler × σ :=
  let r := r.compact
  match Provider.request source r.room pts with
  | (none, source) => (false, r, source)
  | (some buffer, source) =>
    let (granted, r) := r.stage buffer
    (0 < granted, r, Provider.release source granted)

/-- Fill the staging buffer until a frame can be interpolated or the provider grants nothing;
the first component says which. At most `fuel` requests are made. -/
def fillFor (pts : Option Int) : (fuel : Nat) → Resampler → σ → Bool × Resampler × σ
  | 0, r, source => (r.ready, r, source)
  | fuel + 1, r, source =>
    if r.ready then (true, r, source)
    else match r.fill source pts with
      | (true, r, source) => fillFor pts fuel r source
      | (false, r, source) => (false, r, source)

/-- Produce up to `left` frames, after `done` frames were produced. Each request that grants
something brings the next frame closer by at least one, so the distance bounds their number. -/
def produce (pts : Option Int) :
    (left done : Nat) → Resampler → σ → List (List Float32) × Resampler × σ
  | 0, _, r, source => ([], r, source)
  | left + 1, done, r, source =>
    let distance := r.index + r.quality.lookahead + 1 - r.staged
    match fillFor (stampAfter pts r.outputRate done) distance r source with
    | (false, r, source) => ([], r, source)
    | (true, r, source) =>
      let (more, rest) := produce pts left (done + 1) r.step source
      (r.frame :: more, rest)

/-- Produce up to `frames` frames, and no more than fit into `room` samples. Fewer come only
when the provider runs dry. A request carries the time of the frame being produced, where `pts`
is the time of the first. -/
def resample (r : Resampler) (frames room : Nat) (source : σ) (pts : Option Int) :
    List (List Float32) × Resampler × σ :=
  produce pts (min frames (room / r.channels)) 0 r source

end Resampler

end Mixdown
