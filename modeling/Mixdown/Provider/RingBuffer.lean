/-!
# Ring buffers

A queue keeps its samples in a ring buffer, which is a library of its own: `RingBuffer` has the
operations that a queue uses, and `SampleRing` is a ring buffer as that library describes it.
-/

namespace Mixdown

/-- A bounded line of samples. -/
class RingBuffer (ρ : Type) where
  /-- An empty line. As many samples may wait in it as the buffer has places. -/
  ofBuffer : List Float32 → ρ
  /-- The samples that may wait. -/
  maxLength : ρ → Nat
  /-- The samples that wait. -/
  length : ρ → Nat
  /-- Put a sample at the end. When the line is full, the oldest sample gives way and comes
  first. -/
  push : ρ → Float32 → Option Float32 × ρ
  /-- Take the oldest sample. -/
  pop : ρ → Option Float32 × ρ

namespace RingBuffer

variable {ρ : Type} [RingBuffer ρ]

/-- Put samples at the end one after another. The samples that gave way come first. -/
def pushAll (ring : ρ) : List Float32 → List Float32 × ρ
  | [] => ([], ring)
  | sample :: samples =>
    let (lost, ring) := push ring sample
    let (later, ring) := pushAll ring samples
    (lost.toList ++ later, ring)

/-- Take so many samples, the oldest first. A sample that is missing is zero. -/
def popMany (ring : ρ) : (count : Nat) → List Float32 × ρ
  | 0 => ([], ring)
  | count + 1 =>
    let (sample, ring) := pop ring
    let (samples, ring) := popMany ring count
    (sample.getD 0 :: samples, ring)

end RingBuffer

/-- A ring buffer by what waits in it. -/
structure SampleRing where
  maxLength : Nat
  /-- The samples that wait, the oldest first. -/
  waiting : List Float32

namespace SampleRing

def push (ring : SampleRing) (sample : Float32) : Option Float32 × SampleRing :=
  if ring.waiting.length < ring.maxLength then
    (none, { ring with waiting := ring.waiting ++ [sample] })
  else (ring.waiting.head?, { ring with waiting := ring.waiting.tail ++ [sample] })

instance : RingBuffer SampleRing where
  ofBuffer buffer := ⟨buffer.length, []⟩
  maxLength := maxLength
  length ring := ring.waiting.length
  push := push
  pop ring := (ring.waiting.head?, { ring with waiting := ring.waiting.tail })

end SampleRing

end Mixdown
