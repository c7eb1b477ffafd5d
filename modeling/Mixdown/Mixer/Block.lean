import Mixdown.Channel.Stereo
import Mixdown.Sample.Format
import Mixdown.Sample.Scalar

/-!
# Blocks

A block is what a main bus holds after a block of frames was mixed, in the representation of the
bus. Singles are not held within full scale.
-/

namespace Mixdown

/-- The stereo frames of a main bus. -/
inductive Block where
  | pcm16 (frames : List (Stereo Int16))
  | float (frames : List (Stereo Float32))

namespace Block

def format : Block → MixFormat
  | pcm16 _ => .pcm16
  | float _ => .float

/-- `frames` frames of silence. -/
def silence (format : MixFormat) (frames : Nat) : Block :=
  match format with
  | .pcm16 => pcm16 (List.replicate frames (.both 0))
  | .float => float (List.replicate frames (.both 0))

/-- Mixed frames in a representation. -/
def ofMix (format : MixFormat) (frames : List (Stereo Float32)) : Block :=
  match format with
  | .pcm16 => pcm16 (frames.map (Stereo.map int16OfSingle))
  | .float => float frames

/-- The number of interleaved samples. -/
def size : Block → Nat
  | pcm16 frames => 2 * frames.length
  | float frames => 2 * frames.length

/-- The interleaved samples as singles. -/
def singles : Block → List Float32
  | pcm16 frames => (interleave frames).map singleOfInt16
  | float frames => interleave frames

/-- The interleaved sample with number `i` as a single. -/
def single? (b : Block) (i : Nat) : Option Float32 :=
  match b with
  | pcm16 frames => (sample? frames i).map singleOfInt16
  | float frames => sample? frames i

theorem single?_eq_getElem? (b : Block) (i : Nat) : b.single? i = b.singles[i]? := by
  cases b <;> simp [single?, singles, sample?_eq_getElem?]

end Block

end Mixdown
