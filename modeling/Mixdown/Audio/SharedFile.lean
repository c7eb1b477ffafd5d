import Mixdown.Audio.Wave

/-!
# Two wave files in one

Wave files are written through a buffer: what was produced reaches the file in whole buffers, and
the sizes in the header are filled in last. Two of them may go to the same file, and then every
byte is from the one that put it there last.
-/

namespace Mixdown

/-- Bytes that are put to a place of a file. -/
structure Patch where
  offset : Nat
  bytes : Array UInt8

namespace Patch

/-- The file after the bytes were put to their place. A gap before them is filled with zeros. -/
def apply (file : Array UInt8) (p : Patch) : Array UInt8 :=
  if p.bytes.isEmpty then file
  else file.extract 0 p.offset ++ Array.replicate (p.offset - file.size) 0 ++ p.bytes ++
    file.extract (p.offset + p.bytes.size)

end Patch

/-- A wave file that is written through a buffer, block by block. -/
structure WaveDraft where
  wave : Wave
  /-- The bytes of a block of samples. -/
  blockBytes : Nat
  blocks : Nat

namespace WaveDraft

/-- The bytes that the buffer holds. -/
def bufferBytes : Nat := 8192

/-- How many bytes are in the file when `produced` of them were produced: a full buffer is put
there with the byte after it. -/
def flushed (produced : Nat) : Nat := (produced - 1) / bufferBytes * bufferBytes

/-- The bytes that are produced: those of the file, with sizes of zero. -/
def bytes (d : WaveDraft) : Array UInt8 := (d.wave.header 0 0 ++ d.wave.samples.toBytes).toArray

/-- How many bytes were produced after a number of blocks. -/
def produced (d : WaveDraft) (blocks : Nat) : Nat := d.wave.headerBytes + blocks * d.blockBytes

/-- What reaches the file with each block. -/
def blockPatches (d : WaveDraft) : List Patch :=
  let bytes := d.bytes
  (List.range d.blocks).map fun block =>
    let start := flushed (d.produced block)
    ⟨start, bytes.extract start (flushed (d.produced (block + 1)))⟩

/-- What reaches the file at the end: the rest of the bytes, and then the sizes. -/
def lastPatches (d : WaveDraft) : List Patch :=
  let bytes := d.bytes
  let start := flushed (d.produced d.blocks)
  [⟨start, bytes.extract start⟩, ⟨4, (littleEndian 4 (bytes.size - 8)).toArray⟩,
    ⟨d.wave.headerBytes - 4,
      (littleEndian 4 (bytes.size - d.wave.headerBytes)).toArray⟩]

/-- The bytes of a file that two wave files are written to, where the blocks of `d` come before
those of `e`, and `d` is ended before `e`, or after it. -/
def shared (d e : WaveDraft) (endsFirst : Bool) : List UInt8 :=
  let blocks := (d.blockPatches.zipWith (fun p q => [p, q]) e.blockPatches).flatten
  let ends :=
    if endsFirst then d.lastPatches ++ e.lastPatches else e.lastPatches ++ d.lastPatches
  ((blocks ++ ends).foldl Patch.apply #[]).toList

end WaveDraft

end Mixdown
