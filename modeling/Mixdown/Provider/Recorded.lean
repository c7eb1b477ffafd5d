import Mixdown.Provider.Basic

/-!
# Recording the calls to a provider
-/

namespace Mixdown

/-- A call to a provider. -/
inductive Call where
  /-- A request for `asked` frames at `pts`; `granted` is the number of frames that the answer
  claims, if there is one. -/
  | request (asked : Nat) (pts : Option Int) (granted : Option Nat)
  /-- A release of `frames` frames. -/
  | release (frames : Nat)
deriving DecidableEq, Repr

/-- A provider with the calls that it got, the first call first. -/
structure Recorded (σ : Type) where
  source : σ
  calls : List Call

namespace Recorded

variable {σ : Type} [Provider σ]

/-- A provider that got no call yet. -/
def fresh (source : σ) : Recorded σ := ⟨source, []⟩

def request (r : Recorded σ) (frames : Nat) (pts : Option Int) : Option Buffer × Recorded σ :=
  let (buffer, source) := Provider.request r.source frames pts
  (buffer, ⟨source, r.calls ++ [.request frames pts (buffer.map Buffer.frames)]⟩)

def release (r : Recorded σ) (frames : Nat) : Recorded σ :=
  ⟨Provider.release r.source frames, r.calls ++ [.release frames]⟩

instance : Provider (Recorded σ) where
  channels r := Provider.channels r.source
  format r := Provider.format r.source
  request := request
  release := release

end Recorded

end Mixdown
