import Mixdown.Channel.Downmix
import Mixdown.Provider.Basic

/-!
# Downmixing a provider

A `Downmixing` stands between a provider of many channels and its reader, who gets stereo
singles. The delivered samples are read into a buffer of fixed size, so no more is asked for
than that buffer holds.
-/

namespace Mixdown

/-- A downmix of frames on their way to a reader. -/
structure Downmixing where
  matrix : DownmixMatrix
  maxFrames : Nat
  /-- The buffer that delivered samples are read into. -/
  held : List Float32

namespace Downmixing

/-- A downmix of at most `maxFrames` frames at a time, at least one. -/
def new (matrix : DownmixMatrix) (maxFrames : Nat) : Downmixing :=
  let maxFrames := max maxFrames 1
  { matrix, maxFrames, held := List.replicate (maxFrames * matrix.inputChannels) 0 }

def inputChannels (stage : Downmixing) : Nat := stage.matrix.inputChannels

/-- What the provider is asked for when the reader asks for `frames`. -/
def ask (stage : Downmixing) (frames : Nat) : Nat := min frames stage.maxFrames

/-- What the reader gets when the provider grants `buffer` for `asked` frames: as many frames as
the provider claims, downmixed from the buffer that the delivered samples were read into. -/
def convert (stage : Downmixing) (asked : Nat) (buffer : Buffer) : Buffer × Downmixing :=
  let granted := min buffer.frames asked
  let size := granted * stage.inputChannels
  let held := overlay (buffer.samples.singles.take size) stage.held
  let mixed := stage.matrix.applyAll (held.take size) granted
  (⟨granted, .float (interleave mixed).toArray⟩, { stage with held })

/-- `convert` where the provider granted something. -/
def present (stage : Downmixing) (asked : Nat) : Option Buffer → Option Buffer × Downmixing
  | none => (none, stage)
  | some buffer =>
    let (converted, stage) := stage.convert asked buffer
    (some converted, stage)

end Downmixing

end Mixdown
