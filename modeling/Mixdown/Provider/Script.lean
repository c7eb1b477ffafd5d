import Mixdown.Provider.Basic

/-!
# Scripted misbehaviour

A `Script` stands between a provider and its reader and makes the provider uneven: it may refuse
some requests, answer some with an empty buffer, cut the others into small pieces, claim more
frames than it hands out, and declare another layout than it delivers.
-/

namespace Mixdown

/-- A deviation from the plain behaviour of a provider. Requests are numbered from zero. -/
structure Script where
  /-- The most frames to ask the provider for at once. -/
  chunk : Option Nat
  /-- The frames claimed beyond those granted. -/
  claim : Nat
  /-- The requests that are refused. -/
  stalls : List Nat
  /-- The requests that are answered with a buffer of no frames. -/
  empties : List Nat
  /-- The declared channels, where they differ. -/
  channels : Option Nat
  /-- The declared representation, where it differs. -/
  format : Option SampleFormat
  /-- The number of the next request. -/
  calls : Nat

namespace Script

/-- No deviation at all. -/
def plain : Script :=
  { chunk := none, claim := 0, stalls := [], empties := [], channels := none, format := none,
    calls := 0 }

/-- How the next request is answered: without asking the provider, or by asking it for some of
the frames. -/
inductive Cue where
  | refuse
  | empty
  | ask (frames : Nat)

def cue (script : Script) (frames : Nat) : Cue :=
  if script.calls ∈ script.stalls then .refuse
  else if script.calls ∈ script.empties then .empty
  else .ask (match script.chunk with
    | none => frames
    | some chunk => min frames chunk)

/-- The script after one more request. -/
def next (script : Script) : Script := { script with calls := script.calls + 1 }

/-- A granted buffer with the claim that the script makes about it. -/
def overstate (script : Script) (buffer : Buffer) : Buffer :=
  { buffer with frames := buffer.frames + script.claim }

end Script

end Mixdown
