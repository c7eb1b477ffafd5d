/-!
# Stereo frames
-/

namespace Mixdown

/-- A value for the left and one for the right channel. -/
structure Stereo (α : Type) where
  left : α
  right : α
deriving DecidableEq, Repr, Inhabited

namespace Stereo

variable {α β : Type}

/-- The same value on both channels. -/
def both (a : α) : Stereo α := ⟨a, a⟩

def map (f : α → β) (s : Stereo α) : Stereo β := ⟨f s.left, f s.right⟩

def toList (s : Stereo α) : List α := [s.left, s.right]

end Stereo

/-- Stereo frames as interleaved samples. -/
def interleave {α : Type} (frames : List (Stereo α)) : List α := frames.flatMap Stereo.toList

/-- Interleaved samples as stereo frames; an odd sample at the end counts for nothing. -/
def deinterleave {α : Type} : List α → List (Stereo α)
  | left :: right :: rest => ⟨left, right⟩ :: deinterleave rest
  | _ => []

@[simp] theorem deinterleave_interleave {α : Type} (frames : List (Stereo α)) :
    deinterleave (interleave frames) = frames := by
  induction frames with
  | nil => rfl
  | cons f rest ih =>
    have step : interleave (f :: rest) = f.left :: f.right :: interleave rest := rfl
    rw [step]
    simp [deinterleave, ih]

@[simp] theorem length_interleave {α : Type} (frames : List (Stereo α)) :
    (interleave frames).length = 2 * frames.length := by
  induction frames with
  | nil => rfl
  | cons f rest ih =>
    have step : interleave (f :: rest) = f.left :: f.right :: interleave rest := rfl
    rw [step]
    simp [ih]
    omega

/-- The interleaved sample with number `i`. -/
def sample? {α : Type} (frames : List (Stereo α)) (i : Nat) : Option α :=
  frames[i / 2]?.map fun f => if i % 2 = 0 then f.left else f.right

theorem sample?_eq_getElem? {α : Type} (frames : List (Stereo α)) (i : Nat) :
    sample? frames i = (interleave frames)[i]? := by
  induction frames generalizing i with
  | nil => simp [sample?, interleave]
  | cons f rest ih =>
    have step : interleave (f :: rest) = f.left :: f.right :: interleave rest := rfl
    rw [step]
    match i with
    | 0 => simp [sample?]
    | 1 => simp [sample?]
    | i + 2 => simpa [sample?] using ih i

/-- The first `count` frames of `channels` samples each. -/
def takeFrames {α : Type} (channels : Nat) : Nat → List α → List (List α)
  | 0, _ => []
  | count + 1, samples =>
    samples.take channels :: takeFrames channels count (samples.drop channels)

end Mixdown
