import Mixdown.Single

/-!
# One sample in each representation

An integer sample of `width` bits stands for its value divided by `2 ^ (width - 1)`, so every
16-bit and 24-bit sample is exactly a single. The way back rounds to the nearest integer and
saturates.
-/

namespace Mixdown

/-- The three bytes of a packed 24-bit sample, the lowest first. -/
structure Packed24 where
  low : UInt8
  mid : UInt8
  high : UInt8
deriving DecidableEq, Repr, Inhabited

namespace Packed24

/-- The signed value of the three bytes. -/
def toInt (p : Packed24) : Int :=
  Int.bmod (p.low.toNat + 0x100 * p.mid.toNat + 0x10000 * p.high.toNat) 0x1000000

/-- The three low bytes of an integer in two's complement. -/
def ofInt (n : Int) : Packed24 :=
  let u := (n % 0x1000000).toNat
  ⟨.ofNat (u % 0x100), .ofNat (u / 0x100 % 0x100), .ofNat (u / 0x10000)⟩

/-- The sixteen most significant bits. -/
def toInt16 (p : Packed24) : Int16 :=
  .ofInt (p.mid.toNat + 0x100 * p.high.toNat)

def toSingle (p : Packed24) : Float32 := Single.nearest p.toInt (-23)

def ofSingle (x : Float32) : Packed24 := ofInt (Single.quantize 24 x)

end Packed24

/-- A 16-bit sample as a fraction of full scale. -/
def singleOfInt16 (s : Int16) : Float32 := Single.nearest s.toInt (-15)

/-- The 16-bit sample nearest to a fraction of full scale. -/
def int16OfSingle (x : Float32) : Int16 := .ofInt (Single.quantize 16 x)

/-- A 32-bit sample as a fraction of full scale. -/
def singleOfInt32 (s : Int32) : Float32 := Single.nearest s.toInt (-31)

/-- The 32-bit sample nearest to a fraction of full scale. -/
def int32OfSingle (x : Float32) : Int32 := .ofInt (Single.quantize 32 x)

/-- The sixteen most significant bits of a 32-bit sample. -/
def int16OfInt32 (s : Int32) : Int16 := .ofInt (s.toInt / 0x10000)

end Mixdown
