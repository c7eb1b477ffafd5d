/-!
# Single-precision samples as exact binary fractions

A finite single is a signed integer times a power of two. This module moves between the two
views: `Single.nearest` rounds an exact fraction to a single, `Single.quantize` rounds a single
to an integer of a given width, and everything else about sample formats is built from them.
Arithmetic itself (`+`, `*`, comparisons) is the IEEE arithmetic of `Float32`.
-/

namespace Mixdown

open Float.Model (UnpackedFloat Format)

/-- `m * 2 ^ e` rounded to an integer, a half going away from zero. -/
def roundHalfAway (m : Nat) (e : Int) : Nat :=
  if 0 ≤ e then m <<< e.toNat
  else (2 * m + (1 <<< (-e).toNat)) >>> ((-e).toNat + 1)

namespace Single

/-- The single nearest to `m * 2 ^ e`; a tie goes to the even neighbour and zero is positive. -/
def nearest (m e : Int) : Float32 :=
  .ofModel (.pack (UnpackedFloat.normalize Format.binary32 m e .positive))

/-- The single nearest to a natural number. -/
def ofNat (n : Nat) : Float32 := nearest n 0

/-- The signed `width`-bit integer nearest to `x * 2 ^ (width - 1)`, a half going away from
zero. Values beyond the range saturate, and a NaN becomes zero. -/
def quantize (width : Nat) (x : Float32) : Int :=
  let top : Int := (1 <<< (width - 1) : Nat)
  match x.toModel.unpack with
  | .notANumber => 0
  | .zero _ => 0
  | .infinity .positive => top - 1
  | .infinity .negative => -top
  | .finite .positive m e _ => min (top - 1) (roundHalfAway m (e + (width - 1 : Nat)))
  | .finite .negative m e _ => max (-top) (-(roundHalfAway m (e + (width - 1 : Nat)) : Int))

/-- `x` moved into `[lo, hi]`. A NaN stays a NaN, and a zero keeps its sign. -/
def clamp (lo hi x : Float32) : Float32 :=
  if x < lo then lo else if hi < x then hi else x

end Single

end Mixdown
