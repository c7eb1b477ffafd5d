import Mixdown.Double

/-!
# Gains

Gains are linear factors; scenes may give them in decibels. The gain of a track is finite and
lies between silence and unity.
-/

namespace Mixdown

/-- The gain of `db` decibels, ten to the power of a twentieth of them. -/
def dbToLinear (db : Float32) : Float32 :=
  Double.toSingle (Float.pow 10 (Double.ofSingle (db / 20)))

/-- The smallest positive single with full precision. -/
def smallestNormal : Float32 := Single.nearest 1 (-126)

/-- A gain in decibels. Silence, and anything that is not a number, counts as the smallest
positive gain with full precision. -/
def linearToDb (gain : Float32) : Float32 :=
  let floored := if smallestNormal < gain then gain else smallestNormal
  20 * Double.toSingle (Float.log10 (Double.ofSingle floored))

/-- A finite gain moved into the range from silence to unity. -/
def clampTrackGain? (gain : Float32) : Option Float32 :=
  if gain.isFinite then some (Single.clamp 0 1 gain) else none

end Mixdown
