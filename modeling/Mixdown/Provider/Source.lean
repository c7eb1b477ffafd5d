import Mixdown.Provider.Clip
import Mixdown.Provider.Downmixing
import Mixdown.Provider.FrameQueue
import Mixdown.Provider.Reformat
import Mixdown.Provider.Script

/-!
# Sources

A source is a clip or a queue below any number of conversions, downmixes and scripts.
-/

namespace Mixdown

/-- A provider built from the kinds in this library. -/
inductive Source where
  | clip (clip : Clip)
  | queue (queue : FrameQueue SampleRing)
  | reformatted (stage : Reformat) (inner : Source)
  | downmixed (stage : Downmixing) (inner : Source)
  | scripted (script : Script) (inner : Source)

namespace Source

def channels : Source → Nat
  | clip c => c.channels
  | queue q => q.channels
  | reformatted stage _ => stage.channels
  | downmixed _ _ => maxMixChannels
  | scripted script inner => script.channels.getD inner.channels

def format : Source → SampleFormat
  | clip c => c.samples.format
  | queue _ => .float
  | reformatted stage _ => stage.output.toSample
  | downmixed _ _ => .float
  | scripted script inner => script.format.getD inner.format

def request : Source → Nat → Option Int → Option Buffer × Source
  | clip c, frames, pts =>
    let (buffer, c) := c.request frames pts
    (buffer, clip c)
  | queue q, frames, pts =>
    let (buffer, q) := q.request frames pts
    (buffer, queue q)
  | reformatted stage inner, frames, pts =>
    let asked := stage.ask frames
    let (buffer, inner) := inner.request asked pts
    let (buffer, stage) := stage.present asked buffer
    (buffer, reformatted stage inner)
  | downmixed stage inner, frames, pts =>
    let asked := stage.ask frames
    let (buffer, inner) := inner.request asked pts
    let (buffer, stage) := stage.present asked buffer
    (buffer, downmixed stage inner)
  | scripted script inner, frames, pts =>
    match script.cue frames with
    | .refuse => (none, scripted script.next inner)
    | .empty => (some ⟨0, .float #[]⟩, scripted script.next inner)
    | .ask asked =>
      let (buffer, inner) := inner.request asked pts
      (buffer.map script.overstate, scripted script.next inner)

def release : Source → Nat → Source
  | clip c, frames => clip (c.release frames)
  | queue q, frames => queue (q.release frames)
  | reformatted stage inner, frames => reformatted stage (inner.release frames)
  | downmixed stage inner, frames => downmixed stage (inner.release frames)
  | scripted script inner, frames => scripted script (inner.release frames)

instance : Provider Source where
  channels := channels
  format := format
  request := request
  release := release

/-- The queue at the bottom, if there is one. -/
def queue? : Source → Option (FrameQueue SampleRing)
  | clip _ => none
  | queue q => some q
  | reformatted _ inner | downmixed _ inner | scripted _ inner => inner.queue?

/-- The source with its queue replaced by `f` of it. -/
def mapQueue (f : FrameQueue SampleRing → FrameQueue SampleRing) : Source → Source
  | clip c => clip c
  | queue q => queue (f q)
  | reformatted stage inner => reformatted stage (inner.mapQueue f)
  | downmixed stage inner => downmixed stage (inner.mapQueue f)
  | scripted script inner => scripted script (inner.mapQueue f)

/-- Push samples to the queue; the number of accepted frames comes first. -/
def push? (source : Source) (samples : List Float32) : Option (Nat × Source) :=
  source.queue?.map fun q => ((q.push samples).1, source.mapQueue fun q => (q.push samples).2)

/-- The source below the outermost wrapper; a clip or a queue is left as it is. -/
def unwrapped : Source → Source
  | clip c => clip c
  | queue q => queue q
  | reformatted _ inner | downmixed _ inner | scripted _ inner => inner

/-- The source is scripted at the top. -/
def isScripted : Source → Bool
  | scripted _ _ => true
  | _ => false

end Source

end Mixdown
