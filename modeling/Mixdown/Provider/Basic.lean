import Mixdown.Sample.Samples

/-!
# Providers

A provider hands out interleaved frames on request and is told afterwards how many of them were
consumed. Frames that are not released are offered again on the next request. Nothing here
forces a provider to keep to this: a reader has to cope with buffers that hold fewer samples
than they claim, or samples of another representation.
-/

namespace Mixdown

/-- A run of frames that a provider grants. -/
structure Buffer where
  /-- The number of frames that the provider says it grants. -/
  frames : Nat
  /-- The interleaved samples that it hands out. -/
  samples : Samples

/-- A source of interleaved frames with a state of type `σ`. -/
class Provider (σ : Type) where
  /-- The declared number of interleaved channels. -/
  channels : σ → Nat
  /-- The declared representation of the samples. -/
  format : σ → SampleFormat
  /-- Ask for up to `frames` frames; `pts` is the presentation time of the first of them, for a
  caller that tracks time. `none` says that nothing is available now. -/
  request : σ → (frames : Nat) → (pts : Option Int) → Option Buffer × σ
  /-- Mark the first `frames` frames of the last granted buffer as consumed. -/
  release : σ → (frames : Nat) → σ

namespace Provider

variable {σ α : Type} [Provider σ]

/-- What a reader makes of a buffer granted for a request of so many frames: the frames it lets
go, and the values it read, or `none` if the buffer is of no use to it. -/
abbrev Reader (α : Type) := Nat → Buffer → Nat × Option (List α)

/-- Read up to `left` frames through `reader`, in as many requests as it takes; `done` frames
were read before, and `stamp` is the presentation time after so many frames. Reading ends when
the provider refuses, when a buffer is of no use and when no frame was let go. At most `fuel`
requests are made. -/
def pullFrom (reader : Reader α) (stamp : Nat → Option Int) :
    (fuel left done : Nat) → σ → List α × σ
  | 0, _, _, source => ([], source)
  | fuel + 1, left, done, source =>
    if left = 0 then ([], source)
    else match request source left (stamp done) with
      | (none, source) => ([], source)
      | (some buffer, source) =>
        let (released, values) := reader left buffer
        let source := release source released
        match values with
        | none => ([], source)
        | some values =>
          if released = 0 then ([], source)
          else
            let (more, source) :=
              pullFrom reader stamp fuel (left - released) (done + released) source
            (values ++ more, source)

/-- Read up to `frames` frames. Each request that does not end the reading lets a frame go, so
`frames` requests suffice. -/
def pull (reader : Reader α) (stamp : Nat → Option Int) (frames : Nat) (source : σ) :
    List α × σ :=
  pullFrom reader stamp frames frames 0 source

end Provider

end Mixdown
