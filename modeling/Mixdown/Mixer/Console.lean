import Mixdown.Mixer.Configure
import Mixdown.Mixer.Render

/-!
# Consoles

A mixer as it lies in memory. Its strips are there from the start and are used again; one word has
a bit for each slot in use, another one for each slot that takes part in the blocks, and each strip
has a flag of its own besides. A `Mixer` has a track in a slot or none, so that words and flags
follow from its tracks; a console has to keep them in step, and `Console.mixer` is the mixer that it
then is.
-/

namespace Mixdown

namespace Slot

/-- The slot is one of those in a word. -/
def isIn (slot : Slot) (word : UInt32) : Bool := word &&& slot.bit != 0

/-- The lowest slot in a word. -/
def lowest? (word : UInt32) : Option Slot := all.find? (·.isIn word)

/-- A vector with an entry for each slot. -/
@[irreducible] def table {α : Type} (entry : Slot → α) : Vector α maxSlots := .ofFn entry

end Slot

/-- The word of the slots that may be used. -/
def Settings.slots (s : Settings) : UInt32 :=
  if maxSlots ≤ s.maxTracks then 0xffff_ffff else ((1 : UInt32) <<< .ofNat s.maxTracks) - 1

/-- A mixing console whose strips take frames from providers of type `σ`. -/
structure Console (σ : Type) where
  settings : Settings
  /-- Without a factory, no track may have more than two channels. -/
  factory : Option DownmixFactory
  /-- The attempts to build a downmix so far. -/
  attempts : Nat
  /-- The slots that may be used. -/
  configured : UInt32
  /-- The slots in use. -/
  used : UInt32
  /-- The slots that take part in the blocks. -/
  enabled : UInt32
  strips : Vector (Track σ) maxSlots
  /-- The plan for the next block; none if it has to be made first. -/
  plan : Option Plan
  mainBuses : List Block
  auxBuses : List (List Float32)
  /-- How often a track ran out of frames within a block. -/
  underruns : Nat

namespace Console

variable {σ : Type}

/-- A console with idle strips, or what is wrong with its settings. -/
def new (settings : Settings) (factory : Option DownmixFactory) : Except MixerError (Console σ) :=
  match settings.fault? with
  | some fault => .error (.refused (.settings fault))
  | none => .ok
    { settings, factory
      attempts := 0
      configured := settings.slots
      used := 0
      enabled := 0
      strips := Vector.replicate maxSlots (.new settings .stereo .pcm16 0)
      plan := none
      mainBuses := List.replicate settings.mainBuses
        (.silence settings.outputFormat settings.frameCount)
      auxBuses := List.replicate settings.auxBuses (List.replicate settings.frameCount 0)
      underruns := 0 }

def strip (c : Console σ) (slot : Slot) : Track σ := c.strips.get slot

def setStrip (c : Console σ) (slot : Slot) (t : Track σ) : Console σ :=
  { c with strips := c.strips.set slot t slot.isLt }

/-- A mixer with the rest of a console and with these tracks. -/
def withTracks (c : Console σ) (tracks : Slot → Option (Track σ)) : Mixer σ :=
  { settings := c.settings
    factory := c.factory
    attempts := c.attempts
    tracks := Slot.table tracks
    plan := c.plan
    mainBuses := c.mainBuses
    auxBuses := c.auxBuses
    underruns := c.underruns }

/-- The mixer whose tracks are the strips in use. -/
def mixer (c : Console σ) : Mixer σ :=
  c.withTracks fun slot => if slot.isIn c.used then some (c.strip slot) else none

/-- All strips as a block finds them, which goes by the word of the enabled slots only. -/
def staged (c : Console σ) : Mixer σ :=
  c.withTracks fun slot => some { c.strip slot with enabled := slot.isIn c.enabled }

/-- The console with what a mixer has made of its strips; words and flags stay. -/
def adopt (c : Console σ) (m : Mixer σ) : Console σ :=
  { c with
    attempts := m.attempts
    strips := Slot.table fun slot => match m.track? slot with
      | some t => { t with enabled := (c.strip slot).enabled }
      | none => c.strip slot
    plan := m.plan
    mainBuses := m.mainBuses
    auxBuses := m.auxBuses
    underruns := m.underruns }

/-! ## Questions -/

def isEnabled (c : Console σ) (slot : Slot) : Bool := slot.isIn c.enabled

/-- The number that the caller gave to a track in use. -/
def session? (c : Console σ) (slot : Slot) : Option Int32 :=
  if slot.isIn c.used then some (c.strip slot).session else none

/-- The frames that a track took from its provider and that were not mixed yet. -/
def unreleased (c : Console σ) (slot : Slot) : Nat :=
  if slot.isIn c.used then (c.strip slot).unreleased else 0

/-- The provider attached to a slot. -/
def source? (c : Console σ) (slot : Slot) : Option σ := (c.strip slot).source?

/-! ## Calls -/

/-- A call to a console: its result and the console after it. -/
abbrev Answer (σ α : Type) := Except MixerError α × Console σ

/-- Take the lowest free slot for a new track. Its enabled bit is left as it is. -/
def allocate (c : Console σ) (mask : ChannelMask) (format : SampleFormat) (session : Int32) :
    Answer σ Slot :=
  match c.mixer.maskRefusal? mask .standard with
  | some why => (.error (.refused why), c)
  | none =>
    match Slot.lowest? (c.configured &&& ~~~c.used) with
    | none => (.error (.slotsInUse c.settings.maxTracks), c)
    | some slot =>
      (.ok slot, { c.setStrip slot (.new c.settings mask format session) with
        used := c.used ||| slot.bit })

/-- Act on a slot, which has to be in use. -/
def withSlot {α : Type} (c : Console σ) (slot : Slot) (act : Answer σ α) : Answer σ α :=
  if slot.isIn c.used then act else (.error (.refused (.track slot)), c)

/-- Free a slot; its provider is handed back. The rest of the strip stays as it is. -/
def free (c : Console σ) (slot : Slot) : Answer σ (Option σ) :=
  c.withSlot slot <|
    let t := c.strip slot
    (.ok t.source?,
      { c.setStrip slot { t with chain := none, resampler := none, enabled := false } with
        enabled := c.enabled &&& ~~~slot.bit
        used := c.used &&& ~~~slot.bit
        plan := none })

/-- Let a track take part in the blocks, or not. Its flag says whether there is something to do. -/
def setEnabled (c : Console σ) (slot : Slot) (enabled : Bool) : Answer σ Unit :=
  c.withSlot slot <|
    let t := c.strip slot
    if t.enabled = enabled then (.ok (), c)
    else
      (.ok (), { c.setStrip slot { t with enabled } with
        enabled := if enabled then c.enabled ||| slot.bit else c.enabled &&& ~~~slot.bit
        plan := none })

/-- The provider of a slot changes from outside. -/
def mapSource (c : Console σ) (slot : Slot) (change : σ → σ) : Console σ :=
  let t := c.strip slot
  c.setStrip slot { t with chain := t.chain.map (Chain.mapSource change) }

variable [Provider σ]

/-- Attach a provider to a track, or detach the one it has, which is handed back. -/
def attach (c : Console σ) (slot : Slot) (source : Option σ) : Answer σ (Option σ) :=
  c.withSlot slot <|
    let (answer, m) := c.mixer.attach slot source
    (answer, c.adopt m)

/-- Write a setting of a track. -/
def set (c : Console σ) (slot : Slot) (setting : TrackSetting) : Answer σ Unit :=
  c.withSlot slot <|
    let (answer, m) := c.mixer.set slot setting
    (answer, c.adopt m)

/-- Mix one block into every bus. -/
def render (c : Console σ) (pts : Option Int) : Console σ := c.adopt (c.staged.render pts)

end Console

end Mixdown
