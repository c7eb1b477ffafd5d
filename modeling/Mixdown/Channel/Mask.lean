/-!
# Channel masks

A stream names the speaker position of each of its channels by one bit. The channels are
interleaved in ascending order of their bits.
-/

namespace Mixdown

/-- The set of speaker positions of a stream, one bit each. -/
structure ChannelMask where
  bits : UInt32
deriving DecidableEq, Repr, Inhabited

/-! The position bits that have a meaning. -/

namespace Position

def frontLeft : UInt32 := 0x1
def frontRight : UInt32 := 0x2
def frontCenter : UInt32 := 0x4
def lowFrequency : UInt32 := 0x8
def backLeft : UInt32 := 0x10
def backRight : UInt32 := 0x20
def frontLeftOfCenter : UInt32 := 0x40
def frontRightOfCenter : UInt32 := 0x80
def backCenter : UInt32 := 0x100
def sideLeft : UInt32 := 0x200
def sideRight : UInt32 := 0x400

/-- Every bit with a meaning. -/
def all : UInt32 := 0x7ff

end Position

namespace ChannelMask

open Position

/-- The position bits of the mask, lowest first, which is the order of the channels. -/
def positions (mask : ChannelMask) : List UInt32 :=
  ((List.range 32).map fun shift => (1 : UInt32) <<< .ofNat shift).filter
    fun bit => mask.bits &&& bit != 0

def channelCount (mask : ChannelMask) : Nat := mask.positions.length

/-- Some position among `bits` is in the mask. -/
def contains (mask : ChannelMask) (bits : UInt32) : Bool := mask.bits &&& bits != 0

/-- The mask has a position and only positions with a meaning. -/
def isValid (mask : ChannelMask) : Bool := mask.bits != 0 && mask.bits &&& ~~~Position.all == 0

def mono : ChannelMask := ⟨frontLeft⟩
def stereo : ChannelMask := ⟨frontLeft ||| frontRight⟩
def quad : ChannelMask := ⟨stereo.bits ||| backLeft ||| backRight⟩
def fivePointOne : ChannelMask :=
  ⟨stereo.bits ||| frontCenter ||| lowFrequency ||| backLeft ||| backRight⟩
def sevenPointOne : ChannelMask := ⟨fivePointOne.bits ||| sideLeft ||| sideRight⟩

/-- The usual layout of a plain channel count, known for one to eight channels. -/
def ofChannelCount? : Nat → Option ChannelMask
  | 1 => some mono
  | 2 => some stereo
  | 3 => some ⟨stereo.bits ||| frontCenter⟩
  | 4 => some quad
  | 5 => some ⟨quad.bits ||| frontCenter⟩
  | 6 => some fivePointOne
  | 7 => some ⟨fivePointOne.bits ||| backCenter⟩
  | 8 => some sevenPointOne
  | _ => none

/-- The mask in hexadecimal, as it appears in messages. -/
def label (mask : ChannelMask) : String :=
  "0x" ++ String.ofList (Nat.toDigits 16 mask.bits.toNat)

end ChannelMask

end Mixdown
