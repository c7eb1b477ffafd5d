import Mixdown.Proofs.Bounds.Checks
import Mixdown.Proofs.Provider.Stages

/-!
# The stages of a chain within bounds

A request to a chain with every size, division and range checked that its stages compute, in the
order in which they compute them. A chain that suits its layout passes every check, whatever the
provider below it grants (`request?_eq`).
-/

namespace Mixdown

namespace Reformat

/-- `ask`, where the frames that the buffer holds are counted. -/
def ask? (stage : Reformat) (frames : Nat) : Option Nat :=
  match stage.scratch with
  | .passThrough => some frames
  | .pcm16 held => do some (min frames (← quotient? held.length stage.channels))
  | .float held => do some (min frames (← quotient? held.length stage.channels))

/-- `convert`, where the samples are written to a part of the buffer and read from it. -/
def convert? (stage : Reformat) (asked : Nat) (buffer : Buffer) : Option (Buffer × Reformat) :=
  let granted := min buffer.frames asked
  match stage.scratch with
  | .passThrough => some (buffer, stage)
  | .pcm16 held => do
    let size ← word? (granted * stage.channels)
    let held ← write? buffer.samples.words held 0 size
    let fresh ← slice? held 0 size
    some (⟨granted, .pcm16 fresh.toArray⟩, { stage with scratch := .pcm16 held })
  | .float held => do
    let size ← word? (granted * stage.channels)
    let held ← write? buffer.samples.singles held 0 size
    let fresh ← slice? held 0 size
    some (⟨granted, .float fresh.toArray⟩, { stage with scratch := .float held })

def present? (stage : Reformat) (asked : Nat) : Option Buffer → Option (Option Buffer × Reformat)
  | none => some (none, stage)
  | some buffer => do
    let (converted, stage) ← stage.convert? asked buffer
    some (some converted, stage)

/-- The stage has channels, and its buffer has a size of 64 bits. -/
structure Bounded (stage : Reformat) : Prop where
  channels : 0 < stage.channels
  small : ∀ format size, stage.scratch.outline = some (format, size) → size < UInt64.size

variable {stage : Reformat}

theorem Bounded.ask?_eq (bounded : stage.Bounded) (frames : Nat) :
    stage.ask? frames = some (stage.ask frames) := by
  unfold ask? ask
  cases stage.scratch with
  | passThrough => rfl
  | pcm16 held => simp only [quotient?_eq bounded.channels, Option.bind_eq_bind, Option.bind_some]
  | float held => simp only [quotient?_eq bounded.channels, Option.bind_eq_bind, Option.bind_some]

/-- What is written was asked for, so it fits into the buffer. -/
theorem size_convert_le {format : MixFormat} {size : Nat}
    (outline : stage.scratch.outline = some (format, size)) (claimed frames : Nat) :
    min claimed (stage.ask frames) * stage.channels ≤ size :=
  Nat.le_trans (Nat.mul_le_mul_right _ (Nat.min_le_right _ _)) (ask_spec outline frames).2

theorem Bounded.convert?_eq (bounded : stage.Bounded) (frames : Nat) (buffer : Buffer) :
    stage.convert? (stage.ask frames) buffer = some (stage.convert (stage.ask frames) buffer) := by
  have fits {format : MixFormat} {size : Nat}
      (outline : stage.scratch.outline = some (format, size)) :
      min buffer.frames (stage.ask frames) * stage.channels ≤ size ∧ size < UInt64.size :=
    ⟨size_convert_le outline buffer.frames frames, bounded.small format size outline⟩
  unfold convert? convert
  cases scratch : stage.scratch with
  | passThrough => rfl
  | pcm16 held =>
    obtain ⟨inside, small⟩ := fits (by rw [scratch]; rfl)
    simp only [word?_eq (Nat.lt_of_le_of_lt inside small), write?_start _ inside,
      slice?_overlay _ inside, Option.bind_eq_bind, Option.bind_some]
  | float held =>
    obtain ⟨inside, small⟩ := fits (by rw [scratch]; rfl)
    simp only [word?_eq (Nat.lt_of_le_of_lt inside small), write?_start _ inside,
      slice?_overlay _ inside, Option.bind_eq_bind, Option.bind_some]

theorem Bounded.present?_eq (bounded : stage.Bounded) (frames : Nat) (answer : Option Buffer) :
    stage.present? (stage.ask frames) answer = some (stage.present (stage.ask frames) answer) := by
  cases answer with
  | none => rfl
  | some buffer =>
    simp only [present?, bounded.convert?_eq, Option.bind_eq_bind, Option.bind_some, present]

/-- A conversion for at most `maxFrames` frames, whatever its buffer holds. -/
theorem Like.bounded {channels maxFrames : Nat} {input : SampleFormat} {output : MixFormat}
    (like : stage.Like (.new channels input output maxFrames))
    (small : max maxFrames 1 * max channels 1 < UInt64.size) : stage.Bounded where
  channels := by
    rw [like.channels]
    exact Nat.lt_of_lt_of_le Nat.zero_lt_one (Nat.le_max_right channels 1)
  small format size outline := by
    by_cases same : input = output.toSample
    · have through : (new channels input output maxFrames).scratch = .passThrough := if_pos same
      rw [like.scratch, through] at outline
      nomatch outline
    · rw [like.scratch, outline_new channels same] at outline
      obtain ⟨-, rfl⟩ := Prod.mk.inj (Option.some.inj outline)
      exact small

end Reformat

namespace Downmixing

/-- `ask`, where the frames that the stereo buffer holds are counted. -/
def ask? (stage : Downmixing) (frames : Nat) : Option Nat := do
  let held ← word? (stage.maxFrames * maxMixChannels)
  some (min frames (← quotient? held maxMixChannels))

/-- `convert`, where the samples are written to a part of the buffer and read from it frame by
frame, each frame against the gains of its channels, and the stereo frames go to a part of a buffer
of their own. -/
def convert? (stage : Downmixing) (asked : Nat) (buffer : Buffer) :
    Option (Buffer × Downmixing) := do
  let granted := min buffer.frames asked
  let size ← word? (granted * stage.inputChannels)
  let held ← write? buffer.samples.singles stage.held 0 size
  let input ← slice? held 0 size
  let output ← part? (stage.maxFrames * maxMixChannels) 0 (← word? (granted * maxMixChannels))
  let _ ← part? maxDownmixChannels 0 stage.inputChannels
  let whole ← quotient? input.length stage.inputChannels
  let frames := min granted (min whole (output / maxMixChannels))
  let mixed := (takeFrames stage.inputChannels frames input).map stage.matrix.apply
  some (⟨granted, .float (interleave mixed).toArray⟩, { stage with held })

def present? (stage : Downmixing) (asked : Nat) :
    Option Buffer → Option (Option Buffer × Downmixing)
  | none => some (none, stage)
  | some buffer => do
    let (converted, stage) ← stage.convert? asked buffer
    some (some converted, stage)

/-- The stage has one to eight channels, and its buffers have a size of 64 bits. -/
structure Bounded (stage : Downmixing) : Prop where
  channels : 0 < stage.inputChannels
  few : stage.inputChannels ≤ maxDownmixChannels
  held : stage.held.length = stage.maxFrames * stage.inputChannels
  small : stage.maxFrames * maxDownmixChannels < UInt64.size

variable {stage : Downmixing}

theorem Bounded.stereo_small (bounded : stage.Bounded) :
    stage.maxFrames * maxMixChannels < UInt64.size :=
  Nat.lt_of_le_of_lt (Nat.mul_le_mul_left _ (by decide)) bounded.small

theorem Bounded.ask?_eq (bounded : stage.Bounded) (frames : Nat) :
    stage.ask? frames = some (stage.ask frames) := by
  simp only [ask?, word?_eq bounded.stereo_small, Option.bind_eq_bind, Option.bind_some,
    quotient?_eq (show 0 < maxMixChannels by decide),
    Nat.mul_div_cancel _ (show 0 < maxMixChannels by decide), ask]

theorem Bounded.convert?_eq (bounded : stage.Bounded) {asked : Nat}
    (short : asked ≤ stage.maxFrames) (buffer : Buffer) :
    stage.convert? asked buffer = some (stage.convert asked buffer) := by
  have granted : min buffer.frames asked ≤ stage.maxFrames :=
    Nat.le_trans (Nat.min_le_right _ _) short
  have inside : min buffer.frames asked * stage.inputChannels ≤ stage.held.length := by
    rw [bounded.held]
    exact Nat.mul_le_mul_right _ granted
  have small : min buffer.frames asked * stage.inputChannels < UInt64.size :=
    Nat.lt_of_le_of_lt (Nat.mul_le_mul granted bounded.few) bounded.small
  have stereo : min buffer.frames asked * maxMixChannels ≤ stage.maxFrames * maxMixChannels :=
    Nat.mul_le_mul_right _ granted
  have length (fresh : List Float32) :
      ((overlay fresh stage.held).take (min buffer.frames asked * stage.inputChannels)).length =
        min buffer.frames asked * stage.inputChannels := by
    rw [List.length_take, length_overlay, Nat.min_eq_left inside]
  have two : 0 < maxMixChannels := by decide
  simp only [convert?, word?_eq small, write?_start _ inside, slice?_overlay _ inside,
    word?_eq (Nat.lt_of_le_of_lt stereo bounded.stereo_small), part?_eq (Nat.zero_le _) stereo,
    part?_eq (Nat.zero_le _) bounded.few, quotient?_eq bounded.channels, Option.bind_eq_bind,
    Option.bind_some, Nat.sub_zero, Nat.mul_div_cancel _ two, convert, DownmixMatrix.applyAll,
    length]
  rw [show stage.matrix.inputChannels = stage.inputChannels from rfl,
    Nat.mul_div_cancel _ bounded.channels, Nat.min_self, Nat.min_self]

theorem Bounded.present?_eq (bounded : stage.Bounded) (frames : Nat) (answer : Option Buffer) :
    stage.present? (stage.ask frames) answer = some (stage.present (stage.ask frames) answer) := by
  cases answer with
  | none => rfl
  | some buffer =>
    have short : stage.ask frames ≤ stage.maxFrames := Nat.min_le_right _ _
    simp only [present?, bounded.convert?_eq short, Option.bind_eq_bind, Option.bind_some, present]

/-- A downmix of a layout, whatever its buffer holds. -/
theorem Like.bounded {layout : ChainLayout} {mode : DownmixMode}
    (like : stage.Like (layout.downmixing mode)) (pos : 0 < layout.mask.channelCount)
    (few : layout.mask.channelCount ≤ maxDownmixChannels)
    (small : max layout.maxFrames 1 * maxDownmixChannels < UInt64.size) : stage.Bounded where
  channels := like.sized.1 ▸ pos
  few := like.sized.1 ▸ few
  held := like.sized.2
  small := by
    rw [like.maxFrames]
    exact small

end Downmixing

/-- The buffers of a chain for this layout have sizes of 64 bits. -/
structure ChainLayout.Bounded (layout : ChainLayout) : Prop where
  few : layout.mask.channelCount ≤ maxDownmixChannels
  small : max layout.maxFrames 1 * maxDownmixChannels < UInt64.size

/-- A buffer for fewer channels is smaller. -/
theorem ChainLayout.Bounded.of_le {layout : ChainLayout} (bounded : layout.Bounded) {channels : Nat}
    (few : channels ≤ maxDownmixChannels) :
    max layout.maxFrames 1 * max channels 1 < UInt64.size :=
  Nat.lt_of_le_of_lt (Nat.mul_le_mul_left _ (Nat.max_le.mpr ⟨few, by decide⟩)) bounded.small

namespace Chain

variable {σ : Type} [Provider σ]

/-- `Provider.request` of a chain, with its stages checked. -/
def request? : Chain σ → Nat → Option Int → Option (Option Buffer × Chain σ)
  | direct s, frames, pts =>
    let (buffer, s) := Provider.request s frames pts
    some (buffer, direct s)
  | reformatted outer s, frames, pts => do
    let asked ← outer.ask? frames
    let (buffer, s) := Provider.request s asked pts
    let (buffer, outer) ← outer.present? asked buffer
    some (buffer, reformatted outer s)
  | downmixed inner s, frames, pts => do
    let asked ← inner.ask? frames
    let (buffer, s) := Provider.request s asked pts
    let (buffer, inner) ← inner.present? asked buffer
    some (buffer, downmixed inner s)
  | downmixedReformatted outer inner s, frames, pts => do
    let outerAsked ← outer.ask? frames
    let innerAsked ← inner.ask? outerAsked
    let (buffer, s) := Provider.request s innerAsked pts
    let (buffer, inner) ← inner.present? innerAsked buffer
    let (buffer, outer) ← outer.present? outerAsked buffer
    some (buffer, downmixedReformatted outer inner s)

variable {layout : ChainLayout} {mode : DownmixMode} {chain : Chain σ}

/-- A request to a chain that suits its layout passes every check of its stages. -/
theorem Suits.request?_eq (suits : Suits layout mode chain) (bounded : layout.Bounded)
    (frames : Nat) (pts : Option Int) :
    chain.request? frames pts = some (Provider.request chain frames pts) := by
  cases suits with
  | direct source few same => rfl
  | reformatted outer source few differ like =>
    have outer := like.bounded (bounded.of_le bounded.few)
    simp only [request?, outer.ask?_eq, outer.present?_eq, Option.bind_eq_bind, Option.bind_some]
    rfl
  | downmixed inner source many float like =>
    have inner := like.bounded (Nat.zero_lt_of_lt many) bounded.few bounded.small
    simp only [request?, inner.ask?_eq, inner.present?_eq, Option.bind_eq_bind, Option.bind_some]
    rfl
  | downmixedReformatted outer inner source many pcm16 like like' =>
    have outer := like.bounded (bounded.of_le (by decide))
    have inner := like'.bounded (Nat.zero_lt_of_lt many) bounded.few bounded.small
    simp only [request?, outer.ask?_eq, inner.ask?_eq, inner.present?_eq, outer.present?_eq,
      Option.bind_eq_bind, Option.bind_some]
    rfl

end Chain

end Mixdown
