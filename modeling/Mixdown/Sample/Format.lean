/-!
# Sample formats

A track or a provider carries samples in one of four representations; the mixer itself reads and
writes two of them.
-/

namespace Mixdown

/-- How a sample is represented. -/
inductive SampleFormat where
  /-- Signed 16-bit integer. -/
  | pcm16
  /-- Signed 24-bit integer packed into three bytes, the lowest first. -/
  | pcm24Packed
  /-- Signed 32-bit integer. -/
  | pcm32
  /-- Single-precision number, full scale at one. -/
  | float
deriving DecidableEq, Repr, Inhabited

/-- A representation that the mixer reads and writes directly. -/
inductive MixFormat where
  | pcm16
  | float
deriving DecidableEq, Repr, Inhabited

namespace SampleFormat

/-- The name shown to people. -/
def label : SampleFormat → String
  | pcm16 => "pcm16"
  | pcm24Packed => "pcm24-packed"
  | pcm32 => "pcm32"
  | float => "float"

/-- The name used in scene files. -/
def keyword : SampleFormat → String
  | pcm16 => "pcm16"
  | pcm24Packed => "pcm24_packed"
  | pcm32 => "pcm32"
  | float => "float"

def all : List SampleFormat := [pcm16, pcm24Packed, pcm32, float]

/-- The mix format with this representation, if there is one. -/
def toMix? : SampleFormat → Option MixFormat
  | pcm16 => some .pcm16
  | float => some .float
  | _ => none

end SampleFormat

namespace MixFormat

def toSample : MixFormat → SampleFormat
  | pcm16 => .pcm16
  | float => .float

/-- The name used in scene files and shown to people. -/
def keyword (f : MixFormat) : String := f.toSample.keyword

def all : List MixFormat := [pcm16, float]

/-- Mixing in floating point is the default. -/
def standard : MixFormat := float

@[simp] theorem toMix?_toSample (f : MixFormat) : f.toSample.toMix? = some f := by
  cases f <;> rfl

end MixFormat

end Mixdown
