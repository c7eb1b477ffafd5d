import Mixdown.Provider.Downmixing
import Mixdown.Provider.Reformat

/-!
# Provider chains

A chain is a provider with the stages that bring its frames to what a mixer reads: at most
stereo, in one mix format. A layout of more than two channels is downmixed first, and the
representation is changed last.
-/

namespace Mixdown

/-- A provider of type `σ` below the stages that its layout needs. -/
inductive Chain (σ : Type) where
  | direct (source : σ)
  | reformatted (outer : Reformat) (source : σ)
  | downmixed (inner : Downmixing) (source : σ)
  | downmixedReformatted (outer : Reformat) (inner : Downmixing) (source : σ)

/-- What decides the stages of a chain. -/
structure ChainLayout where
  mask : ChannelMask
  format : SampleFormat
  /-- The representation that the mixer reads. -/
  mixInput : MixFormat
  /-- The most frames that are asked for at once. -/
  maxFrames : Nat

namespace ChainLayout

/-- A provider that declares `channels` and `format` can feed this layout. -/
def fits (layout : ChainLayout) (channels : Nat) (format : SampleFormat) : Bool :=
  channels == layout.mask.channelCount && format == layout.format

/-- The layout has more channels than reach a bus. -/
def needsDownmix (layout : ChainLayout) : Bool := maxMixChannels < layout.mask.channelCount

end ChainLayout

namespace Chain

variable {σ : Type}

/-- The chain of a layout without a downmix. -/
def plain (source : σ) (layout : ChainLayout) : Chain σ :=
  if layout.format = layout.mixInput.toSample then direct source
  else reformatted
    (.new layout.mask.channelCount layout.format layout.mixInput layout.maxFrames) source

/-- The chain of a layout that is downmixed by `matrix`. -/
def throughMatrix (source : σ) (layout : ChainLayout) (matrix : DownmixMatrix) : Chain σ :=
  let inner := Downmixing.new matrix layout.maxFrames
  match layout.mixInput with
  | .float => downmixed inner source
  | .pcm16 =>
    downmixedReformatted (.new maxMixChannels .float .pcm16 layout.maxFrames) inner source

/-- The provider below every stage. -/
def source : Chain σ → σ
  | direct s | reformatted _ s | downmixed _ s | downmixedReformatted _ _ s => s

/-- The chain with its provider replaced by `f` of it. -/
def mapSource {τ : Type} (f : σ → τ) : Chain σ → Chain τ
  | direct s => direct (f s)
  | reformatted outer s => reformatted outer (f s)
  | downmixed inner s => downmixed inner (f s)
  | downmixedReformatted outer inner s => downmixedReformatted outer inner (f s)

@[simp] theorem source_mapSource {τ : Type} (f : σ → τ) (chain : Chain σ) :
    (chain.mapSource f).source = f chain.source := by
  cases chain <;> rfl

@[simp] theorem source_plain (s : σ) (layout : ChainLayout) : (plain s layout).source = s := by
  unfold plain; split <;> rfl

@[simp] theorem source_throughMatrix (s : σ) (layout : ChainLayout) (matrix : DownmixMatrix) :
    (throughMatrix s layout matrix).source = s := by
  unfold throughMatrix; cases layout.mixInput <;> rfl

variable [Provider σ]

def channels : Chain σ → Nat
  | direct s => Provider.channels s
  | reformatted outer _ => outer.channels
  | downmixed _ _ => maxMixChannels
  | downmixedReformatted outer _ _ => outer.channels

def format : Chain σ → SampleFormat
  | direct s => Provider.format s
  | reformatted outer _ => outer.output.toSample
  | downmixed _ _ => .float
  | downmixedReformatted outer _ _ => outer.output.toSample

def request : Chain σ → Nat → Option Int → Option Buffer × Chain σ
  | direct s, frames, pts =>
    let (buffer, s) := Provider.request s frames pts
    (buffer, direct s)
  | reformatted outer s, frames, pts =>
    let asked := outer.ask frames
    let (buffer, s) := Provider.request s asked pts
    let (buffer, outer) := outer.present asked buffer
    (buffer, reformatted outer s)
  | downmixed inner s, frames, pts =>
    let asked := inner.ask frames
    let (buffer, s) := Provider.request s asked pts
    let (buffer, inner) := inner.present asked buffer
    (buffer, downmixed inner s)
  | downmixedReformatted outer inner s, frames, pts =>
    let outerAsked := outer.ask frames
    let innerAsked := inner.ask outerAsked
    let (buffer, s) := Provider.request s innerAsked pts
    let (buffer, inner) := inner.present innerAsked buffer
    let (buffer, outer) := outer.present outerAsked buffer
    (buffer, downmixedReformatted outer inner s)

/-- Every stage passes a release on to the provider. -/
def release (chain : Chain σ) (frames : Nat) : Chain σ :=
  chain.mapSource fun s => Provider.release s frames

instance : Provider (Chain σ) where
  channels := channels
  format := format
  request := request
  release := release

end Chain

end Mixdown
