import Mixdown.Provider.Basic

/-!
# Changing the representation of a provider

A `Reformat` stands between a provider and its reader and converts what passes to a mix format.
It converts through a buffer of fixed size, so it asks for no more than that buffer holds; when
nothing has to be converted it passes everything on as it is.
-/

namespace Mixdown

/-- The buffer that converted samples are written to. -/
inductive Scratch where
  /-- Nothing is converted. -/
  | passThrough
  | pcm16 (held : List Int16)
  | float (held : List Float32)

/-- A conversion of samples on their way to a reader. -/
structure Reformat where
  channels : Nat
  input : SampleFormat
  output : MixFormat
  scratch : Scratch

namespace Reformat

/-- A conversion of at most `maxFrames` frames at a time. Channels and frames of zero count as
one. -/
def new (channels : Nat) (input : SampleFormat) (output : MixFormat) (maxFrames : Nat) :
    Reformat :=
  let channels := max channels 1
  let samples := max maxFrames 1 * channels
  { channels
    input
    output
    scratch :=
      if input = output.toSample then .passThrough
      else match output with
        | .pcm16 => .pcm16 (List.replicate samples 0)
        | .float => .float (List.replicate samples 0) }

/-- Frames are converted through the buffer. -/
def converts (stage : Reformat) : Bool :=
  match stage.scratch with
  | .passThrough => false
  | _ => true

/-- What the provider is asked for when the reader asks for `frames`. -/
def ask (stage : Reformat) (frames : Nat) : Nat :=
  match stage.scratch with
  | .passThrough => frames
  | .pcm16 held => min frames (held.length / stage.channels)
  | .float held => min frames (held.length / stage.channels)

/-- What the reader gets when the provider grants `buffer` for `asked` frames: as many frames as
the provider claims, out of the buffer that the delivered samples were converted to. -/
def convert (stage : Reformat) (asked : Nat) (buffer : Buffer) : Buffer × Reformat :=
  let granted := min buffer.frames asked
  let size := granted * stage.channels
  match stage.scratch with
  | .passThrough => (buffer, stage)
  | .pcm16 held =>
    let held := overlay (buffer.samples.words.take size) held
    (⟨granted, .pcm16 (held.take size).toArray⟩, { stage with scratch := .pcm16 held })
  | .float held =>
    let held := overlay (buffer.samples.singles.take size) held
    (⟨granted, .float (held.take size).toArray⟩, { stage with scratch := .float held })

/-- `convert` where the provider granted something. -/
def present (stage : Reformat) (asked : Nat) : Option Buffer → Option Buffer × Reformat
  | none => (none, stage)
  | some buffer =>
    let (converted, stage) := stage.convert asked buffer
    (some converted, stage)

end Reformat

end Mixdown
