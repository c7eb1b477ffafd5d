/-!
# Frames and time

Presentation times are nanoseconds in a signed 64-bit range; durations in scenes are
milliseconds. Both conversions round down towards zero, so a time never lies after the frame
that it names.

Only the duration of frames is kept to that range here. A time is an integer of any size, and adding
a duration to it is exact; in 64 bits the sum can leave the range. `Mixer.Reachable.within_bounds`
says from which times on no sum of a block does so, and it alone asks for that: all other results
are about exact times, and hold in 64 bits where the times that they speak of are in the range.
-/

namespace Mixdown

/-- The duration of `frames` frames at `rate` frames a second, in nanoseconds. The product
saturates at the ends of the signed 64-bit range, and a rate of zero counts as one. -/
def framesToNanos (frames : Nat) (rate : UInt32) : Int :=
  let billionfold := Int.bmod frames UInt64.size * 1_000_000_000
  (max (-0x8000_0000_0000_0000) (min 0x7fff_ffff_ffff_ffff billionfold)).tdiv (max rate.toNat 1)

/-- The whole frames in `ms` milliseconds at `rate` frames a second, kept to 64 bits. -/
def msToFrames (ms : UInt64) (rate : UInt32) : Nat :=
  ms.toNat * rate.toNat / 1000 % UInt64.size

/-- The time `frames` frames after `pts`, for a caller that tracks time. The sum is exact. -/
def stampAfter (pts : Option Int) (rate : UInt32) (frames : Nat) : Option Int :=
  pts.map (· + framesToNanos frames rate)

end Mixdown
