import Mixdown.Single

/-!
# Ramps and track volumes

A ramp is a gain that moves in equal steps towards a target and lands on it exactly. A track has
three: for the left and the right channel and for its auxiliary send.
-/

namespace Mixdown

/-- A gain, and where it is moving. -/
structure Ramp where
  /-- The gain of the next frame. -/
  current : Float32
  target : Float32
  increment : Float32
  /-- The frames after which the target is reached. -/
  remaining : Nat

namespace Ramp

/-- A gain at rest. -/
def settled (gain : Float32) : Ramp := ⟨gain, gain, 0, 0⟩

def isMoving (r : Ramp) : Bool := 0 < r.remaining

/-- Jump to a gain. -/
def set (_ : Ramp) (gain : Float32) : Ramp := settled gain

/-- Move to a gain in `frames` frames. A gain that is the target already changes nothing, and
the current gain, or no frames to move in, makes it a jump. -/
def moveTo (r : Ramp) (gain : Float32) (frames : Nat) : Ramp :=
  if gain == r.target then r
  else if frames = 0 ∨ gain == r.current then settled gain
  else
    { r with
      target := gain
      increment := (gain - r.current) / Single.ofNat frames
      remaining := frames }

/-- The gain one frame later. -/
def step (r : Ramp) : Ramp :=
  match r.remaining with
  | 0 => r
  | 1 => { r with remaining := 0, current := r.target }
  | left + 2 => { r with remaining := left + 1, current := r.current + r.increment }

/-- The gain `frames` frames later, without stopping at the frames in between. -/
def skip (r : Ramp) (frames : Nat) : Ramp :=
  if r.remaining ≤ frames then { r with remaining := 0, current := r.target }
  else
    { r with
      remaining := r.remaining - frames
      current := r.current + r.increment * Single.ofNat frames }

end Ramp

/-- The gains of a track. -/
structure Volume where
  left : Ramp
  right : Ramp
  aux : Ramp

/-- Names the gains of a track. -/
inductive GainName where
  | left
  | right
  | aux
deriving DecidableEq, Repr

namespace Volume

/-- Both channels at unity and nothing sent. -/
def unity : Volume := ⟨.settled 1, .settled 1, .settled 0⟩

/-- The volume with one ramp replaced by `f` of it. -/
def modify (v : Volume) (name : GainName) (f : Ramp → Ramp) : Volume :=
  match name with
  | .left => { v with left := f v.left }
  | .right => { v with right := f v.right }
  | .aux => { v with aux := f v.aux }

def isMoving (v : Volume) : Bool := v.left.isMoving || v.right.isMoving || v.aux.isMoving

/-- Both channels are at rest at zero. -/
def isSilent (v : Volume) : Bool :=
  v.left.current == 0 && v.right.current == 0 && !v.left.isMoving && !v.right.isMoving

/-- Something is sent, or the send is moving. -/
def sendsAux (v : Volume) : Bool := v.aux.current != 0 || v.aux.isMoving

def step (v : Volume) : Volume := ⟨v.left.step, v.right.step, v.aux.step⟩

def skip (v : Volume) (frames : Nat) : Volume :=
  ⟨v.left.skip frames, v.right.skip frames, v.aux.skip frames⟩

end Volume

end Mixdown
