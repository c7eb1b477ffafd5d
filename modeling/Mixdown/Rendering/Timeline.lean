import Mixdown.Mixer.Configure
import Mixdown.Scene.Basic

/-!
# Timelines

A timeline holds what is still to happen to a track: its start and its events, in the order of
their frames and, at the same frame, in the order of the scene.
-/

namespace Mixdown

/-- An event at a frame of the mix. -/
structure TimedEvent where
  frame : Nat
  event : TrackEvent

/-- What is still to happen to the track in a slot. -/
structure Timeline where
  slot : Slot
  startFrame : Nat
  /-- The track was enabled, by its start or by an event. -/
  started : Bool
  /-- The events to come, the next one first. -/
  pending : List TimedEvent

namespace TrackEvent

/-- The settings that gains stand for: one for both channels, one for the auxiliary send. -/
def gainSettings (gain auxLevel : Option Float32) (ramped : Bool) : List TrackSetting :=
  (match gain with
    | some value => [.gain .left value ramped, .gain .right value ramped]
    | none => []) ++
  (match auxLevel with
    | some value => [.gain .aux value ramped]
    | none => [])

/-- The settings that an event writes. -/
def settings (e : TrackEvent) : List TrackSetting := gainSettings e.gain e.auxLevel e.ramp

end TrackEvent

namespace Mixer

variable {σ : Type} [Provider σ]

/-- The mixer after a call that succeeded. -/
def Answer.done {α : Type} : Answer σ α → Except MixerError (Mixer σ)
  | (.ok _, m) => .ok m
  | (.error e, _) => .error e

/-- Write settings one after another, up to the first that is refused. -/
def setAll (m : Mixer σ) (slot : Slot) : List TrackSetting → Except MixerError (Mixer σ)
  | [] => .ok m
  | setting :: rest => do
    let m ← Answer.done (m.set slot setting)
    m.setAll slot rest

end Mixer

namespace Timeline

/-- The timeline of a track that plays at `rate` frames a second. -/
def ofSpec (slot : Slot) (spec : TrackSpec) (rate : UInt32) : Timeline :=
  { slot
    startFrame := msToFrames spec.startMs rate
    started := false
    pending := (spec.events.map fun event => ⟨msToFrames event.atMs rate, event⟩).mergeSort
      fun a b => a.frame ≤ b.frame }

/-- The events that are due at a frame. -/
def due (t : Timeline) (frame : Nat) : List TimedEvent :=
  t.pending.takeWhile fun e => e.frame ≤ frame

variable {σ : Type} [Provider σ]

/-- Enable the track when its start is reached, unless it was enabled before. -/
def start (t : Timeline) (frame : Nat) (m : Mixer σ) :
    Except MixerError (Timeline × Mixer σ) :=
  if !t.started && t.startFrame ≤ frame then do
    let m ← Mixer.Answer.done (m.enable t.slot)
    return ({ t with started := true }, m)
  else .ok (t, m)

/-- Apply one event. -/
def apply (t : Timeline) (e : TrackEvent) (m : Mixer σ) :
    Except MixerError (Timeline × Mixer σ) := do
  let m ← m.setAll t.slot e.settings
  match e.enabled with
  | none => return (t, m)
  | some true =>
    let m ← Mixer.Answer.done (m.enable t.slot)
    return ({ t with started := true }, m)
  | some false =>
    let m ← Mixer.Answer.done (m.disable t.slot)
    return (t, m)

/-- Apply everything that is due at a frame: first the start, then the events. -/
def advance (t : Timeline) (frame : Nat) (m : Mixer σ) :
    Except MixerError (Timeline × Mixer σ) := do
  let started ← t.start frame m
  let rest := t.pending.dropWhile fun e => e.frame ≤ frame
  (t.due frame).foldlM (fun (t, m) e => t.apply e.event m) ({ started.1 with pending := rest },
    started.2)

end Timeline

end Mixdown
