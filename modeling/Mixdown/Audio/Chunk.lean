import Mixdown.Audio.LittleEndian

/-!
# Chunks

A chunk starts with a name of four letters and the length of what follows.
-/

namespace Mixdown

/-- Letters as bytes. -/
def letters (text : String) : List UInt8 := text.toUTF8.toList

/-- The start of a chunk. -/
structure ChunkHead where
  name : List UInt8
  length : Nat
deriving DecidableEq, Repr

namespace ChunkHead

def toBytes (head : ChunkHead) : List UInt8 := head.name ++ littleEndian 4 head.length

/-- The start of a chunk in front of some bytes, and the bytes after it. -/
def read? (bytes : List UInt8) : Option (ChunkHead × List UInt8) := do
  let (length, rest) ← takeField? 4 (bytes.drop 4)
  return (⟨bytes.take 4, length⟩, rest)

end ChunkHead

end Mixdown
