import Mixdown.Mixer.Configure
import Mixdown.Proofs.Provider.Honest
import Mixdown.Proofs.Provider.Moves

/-!
# The stages of a chain

Requests change what the buffers of the stages hold and nothing else about a stage. `Suits` says
that a chain has the stages that a layout needs, whatever their buffers hold.
-/

namespace Mixdown

namespace Channels

theorem count_ofCount {count : Nat} (pos : 1 ≤ count) (few : count ≤ 2) :
    (ofCount count).count = count := by
  unfold ofCount
  split
  · rename_i one
    exact one.symm
  · rename_i many
    show 2 = count
    omega

end Channels

namespace Samples

@[simp] theorem length_words (s : Samples) : s.words.length = s.size := by
  cases s <;> simp [words, size]

end Samples

/-- The representation that is converted to, and the samples that the buffer holds. -/
def Scratch.outline : Scratch → Option (MixFormat × Nat)
  | passThrough => none
  | pcm16 held => some (.pcm16, held.length)
  | float held => some (.float, held.length)

namespace Reformat

/-- Two conversions that differ in what their buffers hold at most. -/
structure Like (a b : Reformat) : Prop where
  channels : a.channels = b.channels
  input : a.input = b.input
  output : a.output = b.output
  scratch : a.scratch.outline = b.scratch.outline

theorem convert_like (stage : Reformat) (asked : Nat) (b : Buffer) :
    Like (stage.convert asked b).2 stage := by
  unfold convert
  cases held : stage.scratch with
  | passThrough => exact ⟨rfl, rfl, rfl, rfl⟩
  | pcm16 _ => exact ⟨rfl, rfl, rfl, by simp [Scratch.outline, held]⟩
  | float _ => exact ⟨rfl, rfl, rfl, by simp [Scratch.outline, held]⟩

theorem present_like (stage : Reformat) (asked : Nat) (answer : Option Buffer) :
    Like (stage.present asked answer).2 stage := by
  cases answer with
  | none => exact ⟨rfl, rfl, rfl, rfl⟩
  | some b => exact stage.convert_like asked b

/-- A conversion grants what it was granted, in its representation. -/
theorem convert_spec {stage : Reformat} {format : MixFormat} {size : Nat}
    (outline : stage.scratch.outline = some (format, size)) {asked : Nat} {b : Buffer}
    (le : b.frames ≤ asked) (fits : asked * stage.channels ≤ size) :
    (stage.convert asked b).1.frames = b.frames ∧
      (stage.convert asked b).1.samples.size = b.frames * stage.channels ∧
      (stage.convert asked b).1.samples.format = format.toSample := by
  have inside : b.frames * stage.channels ≤ size :=
    Nat.le_trans (Nat.mul_le_mul_right _ le) fits
  unfold convert
  cases held : stage.scratch with
  | passThrough => rw [held] at outline; nomatch outline
  | pcm16 samples =>
    rw [held] at outline
    obtain ⟨rfl, rfl⟩ := Prod.mk.inj (Option.some.inj outline)
    simp only [Nat.min_eq_left le]
    exact ⟨trivial, by simp [Samples.size, inside], rfl⟩
  | float samples =>
    rw [held] at outline
    obtain ⟨rfl, rfl⟩ := Prod.mk.inj (Option.some.inj outline)
    simp only [Nat.min_eq_left le]
    exact ⟨trivial, by simp [Samples.size, inside], rfl⟩

/-- A conversion asks for no more than its buffer holds. -/
theorem ask_spec {stage : Reformat} {format : MixFormat} {size : Nat}
    (outline : stage.scratch.outline = some (format, size)) (frames : Nat) :
    stage.ask frames ≤ frames ∧ stage.ask frames * stage.channels ≤ size := by
  have fits : min frames (size / stage.channels) * stage.channels ≤ size :=
    Nat.le_trans (Nat.mul_le_mul_right _ (Nat.min_le_right _ _)) (Nat.div_mul_le_self _ _)
  unfold ask
  cases held : stage.scratch with
  | passThrough => rw [held] at outline; nomatch outline
  | pcm16 samples =>
    rw [held] at outline
    obtain ⟨rfl, rfl⟩ := Prod.mk.inj (Option.some.inj outline)
    exact ⟨Nat.min_le_left _ _, fits⟩
  | float samples =>
    rw [held] at outline
    obtain ⟨rfl, rfl⟩ := Prod.mk.inj (Option.some.inj outline)
    exact ⟨Nat.min_le_left _ _, fits⟩

theorem outline_new (channels : Nat) {input : SampleFormat} {output : MixFormat}
    (differ : input ≠ output.toSample) (maxFrames : Nat) :
    (new channels input output maxFrames).scratch.outline =
      some (output, max maxFrames 1 * max channels 1) := by
  unfold new
  simp only [if_neg differ]
  cases output with
  | pcm16 => simp [Scratch.outline]
  | float => simp [Scratch.outline]

/-- What a conversion hands out for what it was granted. -/
theorem present_granted {stage : Reformat} {format : MixFormat} {size : Nat}
    (outline : stage.scratch.outline = some (format, size)) {frames channels : Nat}
    {input : SampleFormat} {answer : Option Buffer}
    (granted : Provider.Granted answer (stage.ask frames) channels input) :
    Provider.Granted (stage.present (stage.ask frames) answer).1 frames stage.channels
      format.toSample := by
  intro b found
  cases answer with
  | none => nomatch found
  | some given =>
    obtain ⟨pos, le, -, -⟩ := granted given rfl
    obtain ⟨le', fits⟩ := ask_spec outline frames
    obtain ⟨same, whole, converted⟩ := convert_spec outline le fits
    have handed : (stage.convert (stage.ask frames) given).1 = b := Option.some.inj found
    rw [← handed, same, whole]
    exact ⟨pos, Nat.le_trans le le', Nat.le_refl _, converted⟩

theorem Like.trans {a b c : Reformat} (first : Like a b) (second : Like b c) : Like a c :=
  ⟨first.channels.trans second.channels, first.input.trans second.input,
    first.output.trans second.output, first.scratch.trans second.scratch⟩

end Reformat

@[simp] theorem length_takeFrames {α : Type} (channels count : Nat) (samples : List α) :
    (takeFrames channels count samples).length = count := by
  induction count generalizing samples with
  | zero => rfl
  | succ count ih => rw [takeFrames, List.length_cons, ih]

namespace Downmixing

/-- Two downmixes that differ in what their buffers hold at most. -/
structure Like (a b : Downmixing) : Prop where
  matrix : a.matrix = b.matrix
  maxFrames : a.maxFrames = b.maxFrames
  held : a.held.length = b.held.length

theorem present_like (stage : Downmixing) (asked : Nat) (answer : Option Buffer) :
    Like (stage.present asked answer).2 stage := by
  cases answer with
  | none => exact ⟨rfl, rfl, rfl⟩
  | some b => exact ⟨rfl, rfl, by simp [present, convert]⟩

/-- A downmix grants what it was granted, as stereo singles. -/
theorem convert_spec {stage : Downmixing}
    (held : stage.held.length = stage.maxFrames * stage.inputChannels)
    (pos : 0 < stage.inputChannels) {asked : Nat} {b : Buffer} (le : b.frames ≤ asked)
    (fits : asked ≤ stage.maxFrames) :
    (stage.convert asked b).1.frames = b.frames ∧
      (stage.convert asked b).1.samples.size = b.frames * maxMixChannels ∧
      (stage.convert asked b).1.samples.format = .float := by
  have inside : b.frames * stage.inputChannels ≤ stage.maxFrames * stage.inputChannels :=
    Nat.mul_le_mul_right _ (Nat.le_trans le fits)
  unfold convert
  simp only [Nat.min_eq_left le]
  refine ⟨trivial, ?_, rfl⟩
  have whole : ∀ xs : List Float32, xs.length = b.frames * stage.inputChannels →
      (stage.matrix.applyAll xs b.frames).length = b.frames := by
    intro xs length
    rw [DownmixMatrix.applyAll, List.length_map, length_takeFrames, length,
      show stage.matrix.inputChannels = stage.inputChannels from rfl, Nat.mul_div_cancel _ pos,
      Nat.min_self]
  simp only [Samples.size, List.size_toArray, length_interleave]
  rw [whole _ (by simp [held, inside]), Nat.mul_comm]
  rfl

/-- What a downmix hands out for what it was granted. -/
theorem present_granted {stage : Downmixing}
    (held : stage.held.length = stage.maxFrames * stage.inputChannels)
    (pos : 0 < stage.inputChannels) {frames channels : Nat} {input : SampleFormat}
    {answer : Option Buffer}
    (granted : Provider.Granted answer (stage.ask frames) channels input) :
    Provider.Granted (stage.present (stage.ask frames) answer).1 frames maxMixChannels
      .float := by
  intro b found
  cases answer with
  | none => nomatch found
  | some given =>
    obtain ⟨some_frames, le, -, -⟩ := granted given rfl
    obtain ⟨same, whole, converted⟩ := convert_spec held pos le (Nat.min_le_right _ _)
    have handed : (stage.convert (stage.ask frames) given).1 = b := Option.some.inj found
    rw [← handed, same, whole]
    exact ⟨some_frames, Nat.le_trans le (Nat.min_le_left _ _), Nat.le_refl _, converted⟩

theorem Like.trans {a b c : Downmixing} (first : Like a b) (second : Like b c) : Like a c :=
  ⟨first.matrix.trans second.matrix, first.maxFrames.trans second.maxFrames,
    first.held.trans second.held⟩

end Downmixing

namespace ChainLayout

/-- The conversion of a layout without a downmix. -/
def reformat (layout : ChainLayout) : Reformat :=
  .new layout.mask.channelCount layout.format layout.mixInput layout.maxFrames

/-- The downmix of a layout. -/
def downmixing (layout : ChainLayout) (mode : DownmixMode) : Downmixing :=
  .new (.ofMask layout.mask mode) layout.maxFrames

/-- The conversion after the downmix of a layout. -/
def narrowing (layout : ChainLayout) : Reformat :=
  .new maxMixChannels .float .pcm16 layout.maxFrames

end ChainLayout

/-- The buffer of a downmix has the size for its layout. -/
theorem Downmixing.Like.sized {stage : Downmixing} {layout : ChainLayout} {mode : DownmixMode}
    (like : stage.Like (layout.downmixing mode)) :
    stage.inputChannels = layout.mask.channelCount ∧
      stage.held.length = stage.maxFrames * stage.inputChannels := by
  have channels : stage.inputChannels = (layout.downmixing mode).inputChannels := by
    unfold Downmixing.inputChannels
    rw [like.matrix]
  refine ⟨channels.trans (List.length_map _), ?_⟩
  rw [like.held, like.maxFrames, channels]
  exact List.length_replicate

namespace Chain

variable {σ : Type}

/-- A chain has the stages that a layout needs, whatever their buffers hold. -/
inductive Suits (layout : ChainLayout) (mode : DownmixMode) : Chain σ → Prop
  | direct (source : σ) : layout.mask.channelCount ≤ maxMixChannels →
      layout.format = layout.mixInput.toSample → Suits layout mode (.direct source)
  | reformatted (outer : Reformat) (source : σ) : layout.mask.channelCount ≤ maxMixChannels →
      layout.format ≠ layout.mixInput.toSample → outer.Like layout.reformat →
      Suits layout mode (.reformatted outer source)
  | downmixed (inner : Downmixing) (source : σ) : maxMixChannels < layout.mask.channelCount →
      layout.mixInput = .float → inner.Like (layout.downmixing mode) →
      Suits layout mode (.downmixed inner source)
  | downmixedReformatted (outer : Reformat) (inner : Downmixing) (source : σ) :
      maxMixChannels < layout.mask.channelCount → layout.mixInput = .pcm16 →
      outer.Like layout.narrowing → inner.Like (layout.downmixing mode) →
      Suits layout mode (.downmixedReformatted outer inner source)

variable {layout : ChainLayout} {mode : DownmixMode} {chain : Chain σ}

theorem suits_plain (source : σ) (few : layout.mask.channelCount ≤ maxMixChannels) :
    Suits layout mode (plain source layout) := by
  unfold plain
  by_cases same : layout.format = layout.mixInput.toSample
  · rw [if_pos same]
    exact .direct source few same
  · rw [if_neg same]
    exact .reformatted _ source few same ⟨rfl, rfl, rfl, rfl⟩

theorem suits_throughMatrix (source : σ) (many : maxMixChannels < layout.mask.channelCount) :
    Suits layout mode (throughMatrix source layout (.ofMask layout.mask mode)) := by
  unfold throughMatrix
  cases mixInput : layout.mixInput with
  | float => exact .downmixed _ source many mixInput ⟨rfl, rfl, rfl⟩
  | pcm16 =>
    exact .downmixedReformatted _ _ source many mixInput ⟨rfl, rfl, rfl, rfl⟩ ⟨rfl, rfl, rfl⟩

theorem Suits.mapSource {τ : Type} (suits : Suits layout mode chain) (f : σ → τ) :
    Suits layout mode (chain.mapSource f) := by
  cases suits with
  | direct source few same => exact .direct (f source) few same
  | reformatted outer source few differ like =>
    exact .reformatted outer (f source) few differ like
  | downmixed inner source many float like => exact .downmixed inner (f source) many float like
  | downmixedReformatted outer inner source many pcm16 like like' =>
    exact .downmixedReformatted outer inner (f source) many pcm16 like like'

/-- Without a downmix, its mode does not matter. -/
theorem Suits.any_mode (suits : Suits layout mode chain)
    (few : layout.mask.channelCount ≤ maxMixChannels) (mode' : DownmixMode) :
    Suits layout mode' chain := by
  cases suits with
  | direct source few same => exact .direct source few same
  | reformatted outer source few differ like => exact .reformatted outer source few differ like
  | downmixed _ _ many => exact absurd many (Nat.not_lt_of_le few)
  | downmixedReformatted _ _ _ many => exact absurd many (Nat.not_lt_of_le few)

variable [Provider σ]

theorem Suits.request (suits : Suits layout mode chain) (frames : Nat) (pts : Option Int) :
    Suits layout mode (Provider.request chain frames pts).2 := by
  cases suits with
  | direct source few same => exact .direct _ few same
  | reformatted outer source few differ like =>
    exact .reformatted _ _ few differ ((outer.present_like ..).trans like)
  | downmixed inner source many float like =>
    exact .downmixed _ _ many float ((inner.present_like ..).trans like)
  | downmixedReformatted outer inner source many pcm16 like like' =>
    exact .downmixedReformatted _ _ _ many pcm16 ((outer.present_like ..).trans like)
      ((inner.present_like ..).trans like')

theorem Suits.moves (suits : Suits layout mode chain) {chain' : Chain σ}
    (moves : Provider.Moves chain chain') : Suits layout mode chain' :=
  moves.keeps (P := Suits layout mode) (fun _ frames pts here => here.request frames pts)
    (fun _ _ here => here.mapSource _) suits

/-- The provider below the stages declares what a layout expects. -/
def Fed (layout : ChainLayout) (chain : Chain σ) : Prop :=
  Provider.channels chain.source = layout.mask.channelCount ∧
    Provider.format chain.source = layout.format

theorem source_request (chain : Chain σ) (frames : Nat) (pts : Option Int) :
    ∃ asked, (Provider.request chain frames pts).2.source =
      (Provider.request chain.source asked pts).2 := by
  cases chain with
  | direct s => exact ⟨_, rfl⟩
  | reformatted outer s => exact ⟨_, rfl⟩
  | downmixed inner s => exact ⟨_, rfl⟩
  | downmixedReformatted outer inner s => exact ⟨_, rfl⟩

theorem source_release (chain : Chain σ) (frames : Nat) :
    (Provider.release chain frames).source = Provider.release chain.source frames :=
  source_mapSource _ chain

/-- Whatever moves a chain moves the provider below it. -/
theorem moves_source {chain' : Chain σ} (moves : Provider.Moves chain chain') :
    Provider.Moves chain.source chain'.source := by
  induction moves with
  | refl => exact .refl
  | @request c frames pts _ ih =>
    obtain ⟨asked, source⟩ := c.source_request frames pts
    rw [source]
    exact .request asked pts ih
  | @release c frames _ ih =>
    rw [c.source_release]
    exact .release frames ih

theorem Fed.moves_honest (fed : Fed layout chain) (honest : Provider.HonestFrom chain.source)
    {chain' : Chain σ} (moves : Provider.Moves chain chain') : Fed layout chain' := by
  obtain ⟨channels, format, -⟩ := honest _ (moves_source moves)
  exact ⟨channels.trans fed.1, format.trans fed.2⟩

theorem Fed.moves (steady : Provider.Steady σ) (fed : Fed layout chain) {chain' : Chain σ}
    (moves : Provider.Moves chain chain') : Fed layout chain' := by
  refine moves.keeps (P := Fed layout) ?_ ?_ fed
  · intro c frames pts here
    obtain ⟨asked, source⟩ := c.source_request frames pts
    unfold Fed
    rw [source, steady.channels_request, steady.format_request]
    exact here
  · intro c frames here
    unfold Fed
    rw [source_release, steady.channels_release, steady.format_release]
    exact here

/-- A suited chain hands out what the mixer reads: at most stereo, in the mix format. -/
theorem Suits.declares (suits : Suits layout mode chain) (fed : Fed layout chain)
    (pos : 0 < layout.mask.channelCount) :
    Provider.channels chain = min layout.mask.channelCount maxMixChannels ∧
      Provider.format chain = layout.mixInput.toSample := by
  cases suits with
  | direct source few same =>
    exact ⟨fed.1.trans (Nat.min_eq_left few).symm, fed.2.trans same⟩
  | reformatted outer source few differ like =>
    refine ⟨?_, congrArg MixFormat.toSample like.output⟩
    rw [Nat.min_eq_left few]
    exact like.channels.trans (Nat.max_eq_left pos)
  | downmixed inner source many float like =>
    exact ⟨(Nat.min_eq_right (Nat.le_of_lt many)).symm, by rw [float]; rfl⟩
  | downmixedReformatted outer inner source many pcm16 like like' =>
    refine ⟨?_, ?_⟩
    · rw [Nat.min_eq_right (Nat.le_of_lt many)]
      exact like.channels
    · rw [pcm16]
      exact congrArg MixFormat.toSample like.output

/-- A suited chain over a provider that grants what it declares does so too. -/
theorem Suits.grants (suits : Suits layout mode chain)
    (source : Provider.Grants chain.source (Provider.channels chain.source)
      (Provider.format chain.source))
    (fed : Fed layout chain) (pos : 0 < layout.mask.channelCount) :
    Provider.Grants chain (min layout.mask.channelCount maxMixChannels)
      layout.mixInput.toSample := by
  obtain ⟨channels, -⟩ := suits.declares fed pos
  intro frames pts
  rw [fed.1, fed.2] at source
  cases suits with
  | direct s few same =>
    rw [Nat.min_eq_left few, ← same]
    exact source frames pts
  | reformatted outer s few differ like =>
    have outline := like.scratch.trans (Reformat.outline_new _ differ _)
    rw [← channels]
    exact Reformat.present_granted outline (source (outer.ask frames) pts)
  | downmixed inner s many float like =>
    rw [Nat.min_eq_right (Nat.le_of_lt many), float]
    obtain ⟨inputs, held⟩ := like.sized
    exact Downmixing.present_granted held (inputs ▸ pos) (source (inner.ask frames) pts)
  | downmixedReformatted outer inner s many pcm16 like like' =>
    have differ : SampleFormat.float ≠ MixFormat.pcm16.toSample := by decide
    have outline := like.scratch.trans (Reformat.outline_new _ differ _)
    obtain ⟨inputs, held⟩ := like'.sized
    rw [← channels, pcm16]
    exact Reformat.present_granted outline
      (Downmixing.present_granted held (inputs ▸ pos) (source (inner.ask (outer.ask frames)) pts))

end Chain

end Mixdown
