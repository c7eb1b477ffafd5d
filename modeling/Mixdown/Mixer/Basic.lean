import Mixdown.Mixer.Block
import Mixdown.Mixer.Plan

/-!
# Mixers

A mixer has up to 32 slots for tracks. Each block takes frames from the providers of the enabled
tracks and adds them up on stereo main buses and mono auxiliary buses.
-/

namespace Mixdown

/-- Builds downmixes for the layouts that it supports. -/
structure DownmixFactory where
  supports : ChannelMask → DownmixMode → Bool
  /-- Whether the attempt with this number, counted from zero, yields a downmix. -/
  succeeds : Nat → Bool

namespace DownmixFactory

/-- The factory of the matrix downmix, which never fails. -/
def standard : DownmixFactory := ⟨standardDownmix, fun _ => true⟩

/-- A factory that supports what the matrix downmix does, and fails after `count` attempts. -/
def exhaustedAfter (count : Nat) : DownmixFactory := ⟨standardDownmix, (· < count)⟩

end DownmixFactory

/-- A mixer whose tracks have providers of type `σ`. A slot without a track is free; `Console` has
the strips of free slots, and the words of bits for the other ones, as they lie in memory. -/
structure Mixer (σ : Type) where
  settings : Settings
  /-- Without a factory, no track may have more than two channels. -/
  factory : Option DownmixFactory
  /-- The attempts to build a downmix so far. -/
  attempts : Nat
  tracks : Vector (Option (Track σ)) maxSlots
  /-- The plan for the next block; none if it has to be made first. -/
  plan : Option Plan
  mainBuses : List Block
  auxBuses : List (List Float32)
  /-- How often a track ran out of frames within a block. -/
  underruns : Nat

namespace Mixer

variable {σ : Type}

/-- A mixer without tracks, or what is wrong with its settings. -/
def new (settings : Settings) (factory : Option DownmixFactory) : Except MixerError (Mixer σ) :=
  match settings.fault? with
  | some fault => .error (.refused (.settings fault))
  | none => .ok
    { settings, factory
      attempts := 0
      tracks := Vector.replicate maxSlots none
      plan := none
      mainBuses := List.replicate settings.mainBuses
        (.silence settings.outputFormat settings.frameCount)
      auxBuses := List.replicate settings.auxBuses (List.replicate settings.frameCount 0)
      underruns := 0 }

/-- The track in a slot. -/
def track? (m : Mixer σ) (slot : Slot) : Option (Track σ) := m.tracks.get slot

/-- The tracks in use with their slots, in ascending order. -/
def occupied (m : Mixer σ) : List (Slot × Track σ) :=
  Slot.all.filterMap fun slot => (m.track? slot).map (slot, ·)

/-- The enabled tracks with their slots, in ascending order. -/
def enabledTracks (m : Mixer σ) : List (Slot × Track σ) :=
  m.occupied.filter (·.2.enabled)

/-- The slots in use, one bit each. -/
def trackMask (m : Mixer σ) : UInt32 :=
  m.occupied.foldl (fun mask (slot, _) => mask ||| slot.bit) 0

/-- The slots of the enabled tracks, one bit each. -/
def enabledMask (m : Mixer σ) : UInt32 :=
  m.enabledTracks.foldl (fun mask (slot, _) => mask ||| slot.bit) 0

def isEnabled (m : Mixer σ) (slot : Slot) : Bool :=
  match m.track? slot with
  | some t => t.enabled
  | none => false

/-- The number that the caller gave to a track in use. -/
def session? (m : Mixer σ) (slot : Slot) : Option Int32 := (m.track? slot).map Track.session

/-- The frames that a track took from its provider and that were not mixed yet. -/
def unreleased (m : Mixer σ) (slot : Slot) : Nat :=
  match m.track? slot with
  | some t => t.unreleased
  | none => 0

/-- What a main bus holds after the last block. -/
def mainBus? (m : Mixer σ) (bus : Nat) : Option Block := m.mainBuses[bus]?

/-- What an auxiliary bus holds after the last block. -/
def auxBus? (m : Mixer σ) (bus : Nat) : Option (List Float32) := m.auxBuses[bus]?

/-- The provider attached to a slot. -/
def source? (m : Mixer σ) (slot : Slot) : Option σ := (m.track? slot).bind Track.source?

/-- The mixer with the track of a slot replaced. -/
def setTrack (m : Mixer σ) (slot : Slot) (t : Option (Track σ)) : Mixer σ :=
  { m with tracks := m.tracks.set slot t }

/-- The mixer with the provider of a slot replaced by `f` of it, for changes that come from
outside, as when a queue is filled. -/
def mapSource (m : Mixer σ) (slot : Slot) (f : σ → σ) : Mixer σ :=
  match m.track? slot with
  | some t => m.setTrack slot (some { t with chain := t.chain.map (Chain.mapSource f) })
  | none => m

/-- The mixer, which has to make a new plan before the next block. -/
def invalidated (m : Mixer σ) : Mixer σ := { m with plan := none }

end Mixer

end Mixdown
