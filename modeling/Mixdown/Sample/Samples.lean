import Mixdown.Sample.Format
import Mixdown.Sample.Scalar

/-!
# Runs of interleaved samples

`Samples` is a run of samples in one of the four representations. `Samples.singles` and
`Samples.words` read a run as singles or as 16-bit integers; `overlay` says what a fixed buffer
holds after a run was copied to its start.
-/

namespace Mixdown

/-- Interleaved samples in one representation. Packed samples are kept as their bytes, so a run
may end in an incomplete sample, which counts for nothing. -/
inductive Samples where
  | pcm16 (data : Array Int16)
  | pcm24Packed (bytes : Array UInt8)
  | pcm32 (data : Array Int32)
  | float (data : Array Float32)

/-- The packed sample with number `i` in a run of bytes. -/
def packed24At (bytes : Array UInt8) (i : Nat) : Packed24 :=
  ⟨bytes.getD (3 * i) 0, bytes.getD (3 * i + 1) 0, bytes.getD (3 * i + 2) 0⟩

/-- The complete packed samples in a run of bytes. -/
def packed24s (bytes : Array UInt8) : List Packed24 :=
  (List.range (bytes.size / 3)).map (packed24At bytes)

namespace Samples

def format : Samples → SampleFormat
  | pcm16 _ => .pcm16
  | pcm24Packed _ => .pcm24Packed
  | pcm32 _ => .pcm32
  | float _ => .float

/-- The number of complete samples. -/
def size : Samples → Nat
  | pcm16 data => data.size
  | pcm24Packed bytes => bytes.size / 3
  | pcm32 data => data.size
  | float data => data.size

def isEmpty (s : Samples) : Bool := s.size == 0

/-- The samples from number `start` up to, but not including, number `stop`. -/
def slice (s : Samples) (start stop : Nat) : Samples :=
  match s with
  | pcm16 data => pcm16 (data.extract start stop)
  | pcm24Packed bytes => pcm24Packed (bytes.extract (start * 3) (stop * 3))
  | pcm32 data => pcm32 (data.extract start stop)
  | float data => float (data.extract start stop)

/-- The samples as singles. -/
def singles : Samples → List Float32
  | pcm16 data => data.toList.map singleOfInt16
  | pcm24Packed bytes => (packed24s bytes).map Packed24.toSingle
  | pcm32 data => data.toList.map singleOfInt32
  | float data => data.toList

/-- The samples as 16-bit integers: wider integers keep their sixteen most significant bits, and
singles are rounded. -/
def words : Samples → List Int16
  | pcm16 data => data.toList
  | pcm24Packed bytes => (packed24s bytes).map Packed24.toInt16
  | pcm32 data => data.toList.map int16OfInt32
  | float data => data.toList.map int16OfSingle

/-- Singles in a given representation. -/
def ofSingles (f : SampleFormat) (xs : List Float32) : Samples :=
  match f with
  | .pcm16 => pcm16 (xs.map int16OfSingle).toArray
  | .pcm24Packed =>
    pcm24Packed (xs.flatMap fun x => let p := Packed24.ofSingle x; [p.low, p.mid, p.high]).toArray
  | .pcm32 => pcm32 (xs.map int32OfSingle).toArray
  | .float => float xs.toArray

@[simp] theorem format_slice (s : Samples) (start stop : Nat) :
    (s.slice start stop).format = s.format := by
  cases s <;> rfl

@[simp] theorem format_ofSingles (f : SampleFormat) (xs : List Float32) :
    (ofSingles f xs).format = f := by
  cases f <;> rfl

end Samples

/-- A fixed buffer after `fresh` was copied to its start: what does not fit is dropped, and
what is not reached stays as it was. -/
def overlay {α : Type} (fresh stale : List α) : List α :=
  fresh.take stale.length ++ stale.drop fresh.length

@[simp] theorem length_overlay {α : Type} (fresh stale : List α) :
    (overlay fresh stale).length = stale.length := by
  simp [overlay]; omega

end Mixdown
