import Mixdown.Single

/-!
# Double precision beside single precision

Tones and decibels are computed in double precision. `Double.ofSingle` is exact and
`Double.toSingle` rounds once, to the nearest single.
-/

namespace Mixdown

open Float.Model (UnpackedFloat Format)

namespace Double

/-- The double with the value of a single. -/
def ofSingle (x : Float32) : Float :=
  .ofModel (.pack (match x.toModel.unpack with
    | .finite sign m e _ => UnpackedFloat.round Format.binary64 sign m e
    | special => special))

/-- The single nearest to a double; a tie goes to the even neighbour. -/
def toSingle (x : Float) : Float32 :=
  .ofModel (.pack (match x.toModel.unpack with
    | .finite sign m e _ => UnpackedFloat.round Format.binary32 sign m e
    | special => special))

/-- The count nearest to a double, a half going up: zero for a NaN or a negative value, and at
most `2 ^ 64 - 1`. -/
def toCount (x : Float) : Nat :=
  match x.toModel.unpack with
  | .infinity .positive => UInt64.size - 1
  | .finite .positive m e _ => min (UInt64.size - 1) (roundHalfAway m e)
  | _ => 0

end Double

end Mixdown
