import Mixdown.Audio.Chunk
import Mixdown.Sample.Format

/-!
# Layouts of wave files

The layout of a wave file says how its samples are represented, how many channels are
interleaved, and how fast they play. It stands in the chunk `fmt ` in a short form or, for all but
16-bit integers, in a form with an extension that repeats some of it.
-/

namespace Mixdown

namespace SampleFormat

/-- The bytes of a sample. -/
def bytes : SampleFormat → Nat
  | pcm16 => 2
  | pcm24Packed => 3
  | pcm32 => 4
  | float => 4

/-- The bits of a sample. -/
def bits (f : SampleFormat) : Nat := 8 * f.bytes

/-- The number by which a wave file says whether its samples are integers or singles. -/
def waveTag : SampleFormat → Nat
  | float => 3
  | _ => 1

end SampleFormat

/-- The numbers that a wave file gives of its layout. -/
structure WaveLayout where
  /-- How a sample is represented, apart from its width. -/
  tag : Nat
  channels : Nat
  /-- The frames of a second. -/
  sampleRate : UInt32
  /-- The bytes of a second. -/
  byteRate : Nat
  /-- The bytes that belong together: those of a frame. -/
  blockBytes : Nat
  /-- The bits of a sample. -/
  bits : Nat

namespace WaveLayout

/-- The tag of a layout whose extension holds the tag proper. -/
def extendedTag : Nat := 65534

/-- The length of a layout without its extension. -/
def shortLength : Nat := 16

/-- The length of a layout with its extension. -/
def extendedLength : Nat := 40

/-- The length that the extension gives of itself. -/
def extensionLength : Nat := 22

/-- A tag as the extension spells it. -/
def longTag (tag : Nat) : List UInt8 :=
  littleEndian 4 tag ++ [0, 0, 0x10, 0, 0x80, 0, 0, 0xaa, 0, 0x38, 0x9b, 0x71]

def ofFormat (format : SampleFormat) (channels : Nat) (sampleRate : UInt32) : WaveLayout :=
  let blockBytes := channels * format.bytes
  { tag := format.waveTag, channels, sampleRate, blockBytes, bits := format.bits
    byteRate := blockBytes * sampleRate.toNat }

/-- The representation with the tag and the width of a layout. -/
def format? (l : WaveLayout) : Option SampleFormat :=
  SampleFormat.all.find? fun format => format.waveTag == l.tag && format.bits == l.bits

/-- The fields of the short form. -/
def fields (l : WaveLayout) : List UInt8 :=
  littleEndian 2 l.tag ++ littleEndian 2 l.channels ++ littleEndian 4 l.sampleRate.toNat ++
    littleEndian 4 l.byteRate ++ littleEndian 2 l.blockBytes ++ littleEndian 2 l.bits

/-- The extension: its length, the bits that count, a bit for each channel, and the tag. -/
def extension (l : WaveLayout) : List UInt8 :=
  littleEndian 2 extensionLength ++ littleEndian 2 l.bits ++
    littleEndian 4 ((1 <<< l.channels) - 1) ++ longTag l.tag

/-- The layout as it is written: in short form for 16-bit integers, else with its extension. -/
def body (l : WaveLayout) : List UInt8 :=
  if l.tag = 1 ∧ l.bits = 16 then l.fields
  else { l with tag := extendedTag }.fields ++ l.extension

/-- The fields of the short form in front of some bytes, and the bytes after them. -/
def readFields? (bytes : List UInt8) : Option (WaveLayout × List UInt8) := do
  let (tag, bytes) ← takeField? 2 bytes
  let (channels, bytes) ← takeField? 2 bytes
  let (sampleRate, bytes) ← takeField? 4 bytes
  let (byteRate, bytes) ← takeField? 4 bytes
  let (blockBytes, bytes) ← takeField? 2 bytes
  let (bits, bytes) ← takeField? 2 bytes
  return ({ tag, channels, sampleRate := .ofNat sampleRate, byteRate, blockBytes, bits }, bytes)

/-- The numbers agree with each other: a frame has room for a sample of every channel, and a
second for its frames. -/
def isConsistent (l : WaveLayout) : Bool :=
  0 < l.channels && 0 < l.bits && l.bits % 8 == 0 && l.bits ≤ l.blockBytes / l.channels * 8 &&
    l.byteRate == l.blockBytes * l.sampleRate.toNat

/-- A consistent layout of `length` bytes in front of some bytes, and the bytes after it. -/
def readExact? (length : Nat) (bytes : List UInt8) : Option (WaveLayout × List UInt8) := do
  guard (shortLength ≤ length)
  let (l, rest) ← readFields? bytes
  guard l.isConsistent
  if l.tag = extendedTag then
    guard (extendedLength ≤ length)
    let (size, rest) ← takeField? 2 rest
    let (bits, rest) ← takeField? 2 rest
    guard (size = extensionLength ∧ (bits = 0 ∨ bits = l.bits))
    let spelled := (rest.drop 4).take 16
    let tag ← [1, 3].find? fun tag => longTag tag == spelled
    return ({ l with tag }, rest.drop 20)
  else if length = shortLength then return (l, rest)
  else if l.tag = 1 then
    guard (l.bits ≤ 24)
    guard (length = 18 ∨ length = extendedLength)
    return (l, rest.drop (length - shortLength))
  else
    let (size, rest) ← takeField? 2 rest
    guard (length = 18 ∧ size = 0)
    return (l, rest)

end WaveLayout

end Mixdown
