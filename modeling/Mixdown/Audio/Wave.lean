import Mixdown.Audio.WaveLayout
import Mixdown.Sample.Samples

/-!
# Wave files

A wave file is a `RIFF` container of chunks. The chunk `fmt ` tells the layout and the chunk
`data` holds the interleaved samples. `Wave.encode` writes one, and `Wave.decode?` reads what was
written: every number in the file has to agree with the others.
-/

namespace Mixdown

/-- What a wave file holds. -/
structure Wave where
  channels : Nat
  sampleRate : UInt32
  samples : Samples

namespace Samples

/-- The bytes of the samples, each with its lowest byte first. -/
def toBytes : Samples → List UInt8
  | pcm16 data => data.toList.flatMap fun s => littleEndian 2 s.toUInt16.toNat
  | pcm24Packed bytes => bytes.toList
  | pcm32 data => data.toList.flatMap fun s => littleEndian 4 s.toUInt32.toNat
  | float data => data.toList.flatMap fun x => littleEndian 4 x.toBits.toNat

/-- Samples from their bytes. -/
def ofBytes (format : SampleFormat) (bytes : Array UInt8) : Samples :=
  match format with
  | .pcm16 => pcm16 ((littleEndianFields 2 bytes).map fun n => Int16.ofNat n).toArray
  | .pcm24Packed => pcm24Packed bytes
  | .pcm32 => pcm32 ((littleEndianFields 4 bytes).map fun n => Int32.ofNat n).toArray
  | .float => float ((littleEndianFields 4 bytes).map fun n => Float32.ofBits (.ofNat n)).toArray

end Samples

namespace Wave

def layout (w : Wave) : WaveLayout := .ofFormat w.samples.format w.channels w.sampleRate

/-- What comes before the samples in a file that holds `dataBytes` bytes of them, and `fileBytes`
bytes after its first two fields. -/
def header (w : Wave) (fileBytes dataBytes : Nat) : List UInt8 :=
  ChunkHead.toBytes ⟨letters "RIFF", fileBytes⟩ ++ letters "WAVE" ++
    ChunkHead.toBytes ⟨letters "fmt ", w.layout.body.length⟩ ++ w.layout.body ++
    ChunkHead.toBytes ⟨letters "data", dataBytes⟩

/-- The length of the header. -/
def headerBytes (w : Wave) : Nat := (w.header 0 0).length

/-- The bytes of a wave file. -/
def encode (w : Wave) : List UInt8 :=
  let data := w.samples.toBytes
  w.header (w.headerBytes + data.length - 8) data.length ++ data

/-- The layout, the claimed length of the samples, and the bytes from the first of them on. A
chunk of another name is passed over; it takes at least one of `fuel` bytes. -/
def findData? : (fuel : Nat) → Option WaveLayout → List UInt8 →
    Option (WaveLayout × Nat × List UInt8)
  | 0, _, _ => none
  | fuel + 1, layout, bytes => do
    let (head, rest) ← ChunkHead.read? bytes
    if head.name = letters "data" then
      return (← layout, head.length, rest)
    else if head.name = letters "fmt " then
      let (layout, rest) ← WaveLayout.readExact? head.length rest
      findData? fuel (some layout) rest
    else if head.name = letters "fact" then findData? fuel layout (rest.drop 4)
    else findData? fuel layout (rest.drop head.length)

/-- What a wave file holds, if the bytes are one whose numbers agree with each other and whose
frames are all there. -/
def decode? (bytes : List UInt8) : Option Wave := do
  guard (bytes.take 4 = letters "RIFF" ∧ (bytes.drop 8).take 4 = letters "WAVE")
  let (layout, length, rest) ← findData? bytes.length none (bytes.drop 12)
  let format ← layout.format?
  guard (layout.blockBytes / layout.channels = format.bytes)
  let count := length / format.bytes
  guard (count % layout.channels = 0)
  let data := rest.take (count * format.bytes)
  guard (data.length = count * format.bytes)
  return { channels := layout.channels, sampleRate := layout.sampleRate
           samples := .ofBytes format data.toArray }

end Wave

end Mixdown
