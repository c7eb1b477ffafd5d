import Mixdown.Clock
import Mixdown.Mixer.Render

/-!
# Sample streams

A stream hands out the samples of one main bus one by one and has the mixer render the next
block whenever the last one is used up.
-/

namespace Mixdown

/-- The samples of a main bus, for a number of blocks or without end. -/
structure Stream (σ : Type) where
  mixer : Mixer σ
  bus : Nat
  /-- The samples of the current block that were handed out. -/
  position : Nat
  /-- The blocks that are still to be rendered; none for no end. -/
  remaining : Option Nat
  /-- The presentation time of the next block. -/
  nextPts : Int

namespace Stream

variable {σ : Type}

/-- The interleaved samples of a block. -/
def blockLength (s : Stream σ) : Nat := s.mixer.settings.frameCount * maxMixChannels

/-- A stream before its first block. -/
def new (mixer : Mixer σ) (bus : Nat) (blocks : Option Nat) : Stream σ :=
  { mixer, bus, remaining := blocks, nextPts := 0
    position := mixer.settings.frameCount * maxMixChannels }

/-- The samples up to the next block boundary, and none at the end of the stream. -/
def spanLength (s : Stream σ) : Nat :=
  if s.position < s.blockLength then s.blockLength - s.position
  else if s.remaining = some 0 then 0
  else s.blockLength

variable [Provider σ]

/-- The stream at the start of its next block, unless all blocks were rendered. -/
def renderBlock? (s : Stream σ) : Option (Stream σ) :=
  if s.remaining = some 0 then none
  else some
    { s with
      remaining := s.remaining.map (· - 1)
      mixer := s.mixer.render (some s.nextPts)
      nextPts := s.nextPts +
        framesToNanos s.mixer.settings.frameCount s.mixer.settings.sampleRate
      position := 0 }

/-- The sample at the position, if the mixer has the bus. -/
def current? (s : Stream σ) : Option Float32 :=
  (s.mixer.mainBus? s.bus).bind (·.single? s.position)

/-- The next sample, if there is one, and the stream after it. -/
def next (s : Stream σ) : Option Float32 × Stream σ :=
  match if s.position < s.blockLength then some s else s.renderBlock? with
  | none => (none, s)
  | some s =>
    match s.current? with
    | none => (none, s)
    | some sample => (some sample, { s with position := s.position + 1 })

/-- Up to `count` samples, until there is none. -/
def take : Nat → Stream σ → List Float32 × Stream σ
  | 0, s => ([], s)
  | count + 1, s =>
    match s.next with
    | (none, s) => ([], s)
    | (some sample, s) =>
      let (more, s) := take count s
      (sample :: more, s)

/-- The samples of a number of blocks of a main bus. -/
def renderSamples (mixer : Mixer σ) (bus blocks : Nat) : List Float32 :=
  let s := Stream.new mixer bus (some blocks)
  (take (blocks * s.blockLength) s).1

end Stream

end Mixdown
