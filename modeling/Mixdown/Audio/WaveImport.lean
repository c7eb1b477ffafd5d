import Mixdown.Audio.Recording
import Mixdown.Audio.Wave

/-!
# Sound from wave files

Wave files from elsewhere need not start with the container, and the last samples may be
missing; but no chunk may be longer than the container has room for. The samples are taken a
number of blocks at a time, and a frame that is cut off at the end of such a run is lost.
-/

namespace Mixdown

namespace WaveImport

/-- The bytes from the first `RIFF` on, if enough of them follow to tell that it is a container. -/
def container? : List UInt8 → Option (List UInt8)
  | [] => none
  | byte :: rest =>
    if (byte :: rest).take 4 = letters "RIFF" then
      if 16 ≤ (byte :: rest).length then some (byte :: rest) else none
    else container? rest

/-- The most channels that a file can have. -/
def maxChannels : Nat := 26

/-- The length of a container or chunk that was not known when it was begun. -/
def openLength : Nat := 4294967295

/-- A layout of `length` bytes in front of some bytes, and the bytes after it. Its form is short
or followed by an extension, which is passed over. -/
def readLayout? (length : Nat) (bytes : List UInt8) : Option (WaveLayout × List UInt8) := do
  guard (length = WaveLayout.shortLength ∨ length = 18 ∨ length = WaveLayout.extendedLength)
  let (l, rest) ← WaveLayout.readFields? bytes
  guard (l.format?.isSome ∧ 0 < l.channels ∧ l.channels ≤ maxChannels ∧ 0 < l.sampleRate)
  if length = WaveLayout.shortLength then return (l, rest)
  else
    let (size, rest) ← takeField? 2 rest
    return (l, rest.drop size)

/-- The layout, the claimed length of the samples, and the bytes from the first of them on, in a
container of `total` bytes of which `consumed` were taken. Chunks start at even places. A chunk of
another name is passed over; it takes at least one of `fuel` bytes. -/
def findData? (total : Nat) : (fuel consumed : Nat) → Option WaveLayout → List UInt8 →
    Option (WaveLayout × Nat × List UInt8)
  | 0, _, _, _ => none
  | fuel + 1, consumed, layout, bytes => do
    let filler := consumed % 2
    let start := consumed + filler + 8
    guard (start ≤ total)
    let (head, rest) ← ChunkHead.read? (bytes.drop filler)
    guard (head.length ≤ total - start ∨ (total = openLength ∧ head.length = openLength))
    let consumed := start + head.length
    if head.name = letters "data" then return (← layout, head.length, rest)
    else if head.name = letters "fmt " then
      let (layout, rest) ← readLayout? head.length rest
      findData? total fuel consumed (some layout) rest
    else
      guard (head.name ≠ letters "fact" ∨ head.length = 4)
      findData? total fuel consumed layout (rest.drop head.length)

/-- The most blocks that are taken at a time, and the most frames that are kept of them. -/
def runLength : Nat := 1152

/-- The bytes of the whole frames among the first `length` bytes of samples, taken in runs of
whole blocks. -/
def wholeFrames (blockBytes frameBytes length : Nat) (bytes : List UInt8) : List UInt8 :=
  let runBytes := min (length / blockBytes) runLength * blockBytes
  let run := bytes.take runBytes
  if h : run = [] then []
  else
    have : (bytes.drop runBytes).length < bytes.length := by
      have positive : 0 < run.length := List.length_pos_iff.mpr h
      simp only [run, List.length_take] at positive
      simp only [List.length_drop]
      omega
    run.take (min (run.length / frameBytes) runLength * frameBytes) ++
      wholeFrames blockBytes frameBytes (length - run.length) (bytes.drop runBytes)
termination_by bytes.length
decreasing_by exact this

end WaveImport

open WaveImport in
/-- The sound of a wave file, if the bytes hold one. -/
def Recording.ofWaveFile? (bytes : List UInt8) : Option Recording := do
  let bytes ← container? bytes
  guard ((bytes.drop 8).take 4 = letters "WAVE")
  let total := ofLittleEndian ((bytes.drop 4).take 4)
  let (layout, length, rest) ← findData? total bytes.length 0 none (bytes.drop 12)
  guard (0 < layout.blockBytes)
  let format ← layout.format?
  let data := wholeFrames layout.blockBytes (layout.channels * format.bytes) length rest
  return { channels := layout.channels, sampleRate := layout.sampleRate
           samples := (Samples.ofBytes format data.toArray).singles }

end Mixdown
