import Mixdown.Mixer.Track

/-!
# Plans

How the next block is mixed depends on the enabled tracks only through a plan, which is kept
until something changes that it depends on. A block is silent when no enabled track can be
heard; a single track without a rate, a moving gain or a send of its own is written straight to
its bus; otherwise each enabled track has a task, and the tasks add up on the buses.
-/

namespace Mixdown

/-- How one track takes part in a block. -/
inductive Kernel where
  /-- Its provider is kept moving, and nothing is mixed. -/
  | idle
  /-- The frames of its provider are mixed as they come. -/
  | direct (input : MixFormat)
  /-- The frames of its provider are resampled and then mixed. -/
  | resampled
deriving DecidableEq, Repr

/-- The part of one enabled track in a block. -/
structure Task where
  slot : Slot
  channels : Channels
  kernel : Kernel
  /-- Something goes to an auxiliary bus. -/
  aux : Bool
  /-- Some gain was moving when the plan was made. -/
  ramp : Bool
deriving DecidableEq, Repr

/-- How a block is mixed. -/
inductive Strategy where
  /-- Nothing can be heard, and the providers of the enabled tracks are kept moving. -/
  | silent
  /-- One track is written straight to its bus, from `input` to `output`. -/
  | fused (slot : Slot) (channels : Channels) (input output : MixFormat)
  /-- The enabled tracks are mixed in ascending order of their slots. -/
  | general (tasks : List Task)
deriving DecidableEq, Repr

/-- How the next block is mixed, and in which representations the main buses are written. -/
structure Plan where
  strategy : Strategy
  formats : List MixFormat
deriving DecidableEq, Repr

namespace Task

variable {σ : Type}

def ofTrack (slot : Slot) (t : Track σ) : Task :=
  let demands := t.demands
  { slot
    channels := demands.channels
    kernel :=
      if t.chain.isNone || demands.mute then .idle
      else if demands.resample then .resampled
      else .direct t.mixInput
    aux := demands.aux
    ramp := demands.ramp }

end Task

namespace Strategy

variable {σ : Type}

/-- A track has a rate, a moving gain or a send of its own. -/
def isComplex (t : Track σ) : Bool :=
  let demands := t.demands
  demands.resample || demands.ramp || demands.aux

/-- The strategy for a single enabled track that can be heard. -/
def ofTrack (slot : Slot) (t : Track σ) : Strategy :=
  let task := Task.ofTrack slot t
  match task.kernel with
  | .direct input =>
    if isComplex t then general [task] else fused slot task.channels input t.busFormat
  | _ => general [task]

/-- The strategy for the enabled tracks, in ascending order of their slots. -/
def ofTracks (enabled : List (Slot × Track σ)) : Strategy :=
  let tasks := enabled.map fun (slot, t) => Task.ofTrack slot t
  if tasks.all (·.kernel == .idle) then silent
  else match enabled with
    | [(slot, t)] => ofTrack slot t
    | _ => general tasks

end Strategy

namespace Plan

variable {σ : Type}

/-- A main bus takes the format of the lowest enabled track that is routed to it, and keeps the
one it has when there is none. -/
def busFormat (enabled : List (Slot × Track σ)) (bus : Nat) (current : MixFormat) : MixFormat :=
  match enabled.find? fun (_, t) => t.mainBus == bus with
  | some (_, t) => t.busFormat
  | none => current

/-- The plan for the enabled tracks, where `current` are the formats of the main buses. -/
def ofTracks (enabled : List (Slot × Track σ)) (current : List MixFormat) : Plan :=
  { strategy := .ofTracks enabled
    formats := current.mapIdx fun bus format => busFormat enabled bus format }

end Plan

end Mixdown
