import Mixdown.Mixer.Basic
import Mixdown.Mixer.Kernel

/-!
# Mixing a block

`Mixer.render` mixes one block into every bus, by the plan that is kept or by a new one.
-/

namespace Mixdown

/-- The sum on a bus in the course of a block; none before something is written to it. The
first to write fills up with silence, and the next ones add to what is there. -/
def layer {α : Type} (add : α → α → α) (silence : α) (frameCount : Nat) :
    Option (List α) → List α → List α
  | none, fresh => fresh ++ List.replicate (frameCount - fresh.length) silence
  | some sum, fresh => sum.zipWith add fresh ++ sum.drop fresh.length

/-- The sums of the main and auxiliary buses in the course of a block. -/
structure Sums where
  main : List (Option (List (Stereo Float32)))
  aux : List (Option (List Float32))

namespace Sums

/-- Nothing is written yet. -/
def empty (mainBuses auxBuses : Nat) : Sums :=
  ⟨List.replicate mainBuses none, List.replicate auxBuses none⟩

def addStereo (a b : Stereo Float32) : Stereo Float32 := ⟨a.left + b.left, a.right + b.right⟩

/-- The contributions of one track written to its main bus and, if it has one, to its auxiliary
bus. -/
def write (sums : Sums) (frameCount mainBus : Nat) (auxBus : Option Nat)
    (contributions : List Contribution) : Sums :=
  { main := sums.main.modify mainBus fun sum =>
      some (layer addStereo (.both 0) frameCount sum (contributions.map Contribution.main))
    aux := match auxBus with
      | none => sums.aux
      | some bus => sums.aux.modify bus fun sum =>
          some (layer (· + ·) 0 frameCount sum (contributions.map Contribution.aux)) }

/-- The blocks of the main buses in their formats. -/
def mainBlocks (sums : Sums) (frameCount : Nat) (formats : List MixFormat) : List Block :=
  sums.main.zipWith (fun sum format => match sum with
    | none => .silence format frameCount
    | some frames => .ofMix format frames) formats

/-- What the auxiliary buses hold. -/
def auxBlocks (sums : Sums) (frameCount : Nat) : List (List Float32) :=
  sums.aux.map fun sum => sum.getD (List.replicate frameCount 0)

end Sums

namespace Mixer

variable {σ : Type}

/-- A new plan for the next block. -/
def makePlan (m : Mixer σ) : Plan := .ofTracks m.enabledTracks (m.mainBuses.map Block.format)

/-- The plan for the next block: the one that is kept, or a new one. -/
def currentPlan (m : Mixer σ) : Plan := m.plan.getD m.makePlan

/-- The mixer with every bus silent. -/
def silenced (m : Mixer σ) (formats : List MixFormat) : Mixer σ :=
  { m with
    mainBuses := formats.map fun format => .silence format m.settings.frameCount
    auxBuses := m.auxBuses.map fun _ => List.replicate m.settings.frameCount 0 }

variable [Provider σ]

/-- Keep the providers of the enabled tracks moving; every bus is silent. -/
def renderSilent (m : Mixer σ) (formats : List MixFormat) (pts : Option Int) : Mixer σ :=
  { m.silenced formats with
    tracks := m.tracks.map fun track => track.map fun t =>
      if t.enabled then t.passOver m.settings.frameCount m.settings.sampleRate pts else t }

/-- The block of a single track under resting gains. -/
def fusedBlock (output : MixFormat) (frameCount : Nat) (volume : Volume)
    (frames : List (Stereo Float32)) : Block :=
  let left := volume.left.current
  let right := volume.right.current
  let missing := frameCount - frames.length
  match output with
  | .pcm16 => .pcm16 (frames.map (fun f =>
      ⟨int16OfSingle (f.left * left), int16OfSingle (f.right * right)⟩) ++
        List.replicate missing (.both 0))
  | .float => .float (frames.map (fun f => ⟨f.left * left, f.right * right⟩) ++
      List.replicate missing (.both 0))

/-- Write a single track straight to its bus; every other bus is silent. -/
def renderFused (m : Mixer σ) (slot : Slot) (channels : Channels) (input output : MixFormat)
    (formats : List MixFormat) (pts : Option Int) : Mixer σ :=
  match m.track? slot with
  | none => m
  | some t =>
    let frameCount := m.settings.frameCount
    let (frames, t) := t.read input channels frameCount m.settings.sampleRate pts
    let silent := m.silenced formats
    { silent.setTrack slot (some t) with
      mainBuses := silent.mainBuses.set t.mainBus (fusedBlock output frameCount t.volume frames)
      underruns := if frames.length = frameCount then m.underruns else m.underruns + 1 }

/-- The track of a task after its part in a block, and what it adds to the buses; an idle task
adds nothing. -/
def runKernel (settings : Settings) (task : Task) (pts : Option Int) (t : Track σ) :
    Option (Played σ) × Track σ :=
  match task.kernel with
  | .idle => (none, t.passOver settings.frameCount settings.sampleRate pts)
  | .direct input =>
    let played := t.playDirect input task.channels settings.frameCount settings.sampleRate pts
    (some played, played.track)
  | .resampled =>
    let played := t.playResampled task.channels settings.frameCount pts
    (some played, played.track)

/-- Run one task of a block: the sums and the mixer after it. A track whose gains have come to
rest needs another plan. -/
def runTask (pts : Option Int) (sums : Sums) (m : Mixer σ) (task : Task) : Sums × Mixer σ :=
  match m.track? task.slot with
  | none => (sums, m)
  | some t =>
    match runKernel m.settings task pts t with
    | (none, t) => (sums, m.setTrack task.slot (some t))
    | (some played, t) =>
      let auxBus := if task.aux then t.auxBus else none
      let m := m.setTrack task.slot (some t)
      let m := if played.complete then m else { m with underruns := m.underruns + 1 }
      let m := if task.ramp && !t.volume.isMoving then m.invalidated else m
      (sums.write m.settings.frameCount t.mainBus auxBus played.contributions, m)

/-- Run the tasks of a block one after another and add up their contributions. -/
def renderGeneral (m : Mixer σ) (tasks : List Task) (formats : List MixFormat)
    (pts : Option Int) : Mixer σ :=
  let (sums, m) := tasks.foldl (fun (sums, m) task => runTask pts sums m task)
    (.empty m.mainBuses.length m.auxBuses.length, m)
  { m with
    mainBuses := sums.mainBlocks m.settings.frameCount formats
    auxBuses := sums.auxBlocks m.settings.frameCount }

/-- Mix a block by a plan. -/
def renderBy (m : Mixer σ) (plan : Plan) (pts : Option Int) : Mixer σ :=
  let m := { m with plan := some plan }
  match plan.strategy with
  | .silent => m.renderSilent plan.formats pts
  | .fused slot channels input output =>
    m.renderFused slot channels input output plan.formats pts
  | .general tasks => m.renderGeneral tasks plan.formats pts

/-- Mix one block into every bus. `pts` is the presentation time of its first frame in
nanoseconds, and a request carries the time of the frame that it starts at. -/
def render (m : Mixer σ) (pts : Option Int) : Mixer σ := m.renderBy m.currentPlan pts

end Mixer

end Mixdown
