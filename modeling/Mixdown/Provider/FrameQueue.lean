import Mixdown.Provider.Basic
import Mixdown.Provider.RingBuffer

/-!
# Frame queues

A frame queue is filled from one side and drained from the other. Pushed frames wait in a ring
buffer; a request that finds nothing staged first moves the frames that waited longest to a staging
area of fixed size, and hands out staged frames until they are all released.
-/

namespace Mixdown

/-- A bounded queue of interleaved singles over a ring buffer of type `ρ`. -/
structure FrameQueue (ρ : Type) where
  channels : Nat
  /-- The samples that wait. -/
  ring : ρ
  /-- The staging area. Only its first frames are staged. -/
  staging : List Float32
  /-- The frames that were staged last. -/
  staged : Nat
  /-- The staged frames that are released. -/
  offset : Nat
  /-- The writer said that no more frames follow. -/
  closed : Bool

namespace FrameQueue

variable {ρ : Type}

/-- Declare that no more frames follow. -/
def close (queue : FrameQueue ρ) : FrameQueue ρ := { queue with closed := true }

def release (queue : FrameQueue ρ) (frames : Nat) : FrameQueue ρ :=
  { queue with offset := min (queue.offset + frames) queue.staged }

variable [RingBuffer ρ]

/-- An empty queue. Channels and capacities of zero count as one. -/
def new (channels capacity stagingCapacity : Nat) : FrameQueue ρ :=
  let channels := max channels 1
  { channels
    ring := RingBuffer.ofBuffer (List.replicate (max capacity 1 * channels) 0)
    staging := List.replicate (max stagingCapacity 1 * channels) 0
    staged := 0
    offset := 0
    closed := false }

/-- The frames that can still be pushed. -/
def room (queue : FrameQueue ρ) : Nat :=
  (RingBuffer.maxLength queue.ring - RingBuffer.length queue.ring) / queue.channels

/-- Push as many whole frames as there is room for; their number comes first. -/
def push (queue : FrameQueue ρ) (samples : List Float32) : Nat × FrameQueue ρ :=
  let frames := min queue.room (samples.length / queue.channels)
  let (_, ring) := RingBuffer.pushAll queue.ring (samples.take (frames * queue.channels))
  (frames, { queue with ring })

/-- The writer is done and every frame was released. -/
def isFinished (queue : FrameQueue ρ) : Bool :=
  if !queue.closed || queue.offset < queue.staged then false
  else RingBuffer.length queue.ring == 0

/-- Move the frames that waited longest to the staging area, of which nothing is left. -/
def refill (queue : FrameQueue ρ) : FrameQueue ρ :=
  let capacity := queue.staging.length / queue.channels
  let frames := min (RingBuffer.length queue.ring / queue.channels) capacity
  let (samples, ring) := RingBuffer.popMany queue.ring (frames * queue.channels)
  { queue with
    ring
    staging := samples ++ queue.staging.drop samples.length
    staged := frames
    offset := 0 }

def request (queue : FrameQueue ρ) (frames : Nat) (_pts : Option Int) :
    Option Buffer × FrameQueue ρ :=
  let queue := if queue.staged ≤ queue.offset then queue.refill else queue
  let granted := min frames (queue.staged - queue.offset)
  if granted = 0 then (none, queue)
  else
    let start := queue.offset * queue.channels
    let samples := (queue.staging.drop start).take (granted * queue.channels)
    (some ⟨granted, .float samples.toArray⟩, queue)

instance : Provider (FrameQueue ρ) where
  channels := FrameQueue.channels
  format _ := .float
  request := request
  release := release

end FrameQueue

end Mixdown
