import Mixdown.Proofs.Provider.Delivery
import Mixdown.Proofs.Provider.Protocol

/-!
# What is heard of a frame

The stages of a chain treat one frame after another: a conversion its samples, a downmix all its
channels. So what is heard of a buffer through a chain is what is heard of its frames
(`Chain.Suits.stereo_request`).
-/

namespace Mixdown

theorem take_drop_extract {α : Type} (xs : Array α) (start stop : Nat) :
    (xs.extract start stop).toList = (xs.toList.drop start).take (stop - start) := by
  rw [Array.toList_extract, List.extract_eq_take_drop]

/-- A run of whole packed samples. -/
theorem packed24s_extract (bytes : Array UInt8) (start stop : Nat) :
    packed24s (bytes.extract (start * 3) (stop * 3)) =
      ((packed24s bytes).drop start).take (stop - start) := by
  apply List.ext_getElem
  · simp only [length_packed24s, Array.size_extract, List.length_take, List.length_drop]
    omega
  · intro i inside _
    simp only [length_packed24s, Array.size_extract] at inside
    have byte : ∀ k, k < 3 →
        (bytes.extract (start * 3) (stop * 3)).getD (3 * i + k) 0 =
          bytes.getD (3 * (start + i) + k) 0 := by
      intro k small
      rw [Array.getD_eq_getD_getElem?, Array.getD_eq_getD_getElem?, Array.getElem?_extract,
        if_pos (by omega), show start * 3 + (3 * i + k) = 3 * (start + i) + k by omega]
    simp only [packed24s, List.getElem_map, List.getElem_range, List.getElem_take,
      List.getElem_drop, packed24At, byte 1 (by decide), byte 2 (by decide)]
    exact congrArg (Packed24.mk · _ _) (byte 0 (by decide))

namespace Samples

/-- The samples brought to a mix format, as singles. -/
def mixed (s : Samples) : MixFormat → List Float32
  | .pcm16 => s.words.map singleOfInt16
  | .float => s.singles

theorem singles_slice (s : Samples) (start stop : Nat) :
    (s.slice start stop).singles = (s.singles.drop start).take (stop - start) := by
  cases s with
  | pcm16 data => simp only [slice, singles, take_drop_extract, List.map_take, List.map_drop]
  | pcm24Packed bytes =>
    simp only [slice, singles, packed24s_extract, List.map_take, List.map_drop]
  | pcm32 data => simp only [slice, singles, take_drop_extract, List.map_take, List.map_drop]
  | float data => simp only [slice, singles, take_drop_extract]

theorem words_slice (s : Samples) (start stop : Nat) :
    (s.slice start stop).words = (s.words.drop start).take (stop - start) := by
  cases s with
  | pcm16 data => simp only [slice, words, take_drop_extract]
  | pcm24Packed bytes =>
    simp only [slice, words, packed24s_extract, List.map_take, List.map_drop]
  | pcm32 data => simp only [slice, words, take_drop_extract, List.map_take, List.map_drop]
  | float data => simp only [slice, words, take_drop_extract, List.map_take, List.map_drop]

theorem slice_slice (s : Samples) {start stop first last : Nat} (inside : start + last ≤ stop) :
    (s.slice start stop).slice first last = s.slice (start + first) (start + last) := by
  cases s with
  | pcm16 data | pcm32 data | float data =>
    simp only [slice, Array.extract_extract, Nat.min_eq_left inside]
  | pcm24Packed bytes =>
    have triples : start * 3 + last * 3 ≤ stop * 3 := by omega
    simp only [slice, Array.extract_extract, Nat.min_eq_left triples, Nat.add_mul]

theorem mixed_slice (s : Samples) (input : MixFormat) (start stop : Nat) :
    (s.slice start stop).mixed input = ((s.mixed input).drop start).take (stop - start) := by
  cases input with
  | pcm16 => simp only [mixed, words_slice, List.map_take, List.map_drop]
  | float => exact s.singles_slice start stop

/-- Samples in the mix format already. -/
theorem mixed_eq_singles {s : Samples} {input : MixFormat} (format : s.format = input.toSample) :
    s.mixed input = s.singles := by
  cases input with
  | float => rfl
  | pcm16 => exact (singles_eq_words format).symm

end Samples

/-- The samples of the frame with number `i`. -/
def Buffer.frame (b : Buffer) (channels i : Nat) : Samples :=
  b.samples.slice (i * channels) ((i + 1) * channels)

/-- The frame with number `i` of interleaved singles; one channel is heard on both sides. -/
def Channels.frameAt (channels : Channels) (xs : List Float32) (i : Nat) : Stereo Float32 :=
  match channels with
  | .mono => .both (xs.getD i 0)
  | .stereo => ⟨xs.getD (2 * i) 0, xs.getD (2 * i + 1) 0⟩

theorem Channels.frameAt_slice (channels : Channels) (xs : List Float32) (i : Nat) :
    channels.frameAt xs i =
      channels.frameAt ((xs.drop (i * channels.count)).take channels.count) 0 := by
  cases channels with
  | mono => simp [frameAt, count, List.getD_eq_getElem?_getD]
  | stereo => simp [frameAt, count, List.getD_eq_getElem?_getD, Nat.mul_comm]

theorem Buffer.stereo_eq_frameAt (b : Buffer) (channels : Channels) :
    b.stereo channels = (List.range b.frames).map (channels.frameAt b.samples.singles) := by
  cases channels <;> rfl

/-- What is heard of a frame that is not downmixed depends on its samples in the mix format only. -/
theorem Buffer.stereo_eq_mixed {b b' : Buffer} {channels : Channels} {input : MixFormat}
    (frames : b'.frames = b.frames)
    (same : b'.samples.singles.take (b.frames * channels.count) =
      (b.samples.mixed input).take (b.frames * channels.count)) :
    b'.stereo channels = (List.range b.frames).map fun i =>
      channels.frameAt ((b.frame channels.count i).mixed input) 0 := by
  rw [stereo_eq_frameAt, frames]
  apply List.map_congr_left
  intro i inside
  have inside : i < b.frames := List.mem_range.mp inside
  have room : i * channels.count + channels.count ≤ b.frames * channels.count := by
    rw [← Nat.succ_mul]
    exact Nat.mul_le_mul_right _ inside
  have cut (xs : List Float32) : (xs.drop (i * channels.count)).take channels.count =
      ((xs.take (b.frames * channels.count)).drop (i * channels.count)).take channels.count := by
    rw [List.drop_take, List.take_take, Nat.min_eq_left (by omega)]
  rw [channels.frameAt_slice, cut, same, ← cut, frame, Samples.mixed_slice, Nat.succ_mul,
    Nat.add_sub_cancel_left]

/-- Interleaved stereo singles are heard as the frames that they are. -/
theorem Buffer.stereo_interleave {b : Buffer} {frames : List (Stereo Float32)}
    (length : b.frames = frames.length) (same : b.samples.singles = interleave frames) :
    b.stereo .stereo = frames := by
  have whole : 2 * frames.length ≤ (interleave frames).length :=
    Nat.le_of_eq (length_interleave frames).symm
  have heard := deinterleave_take (interleave frames) whole
  rw [← length_interleave, List.take_length, deinterleave_interleave] at heard
  rw [heard, stereo, length, same]

theorem interleave_map {α β : Type} (f : α → β) (frames : List (Stereo α)) :
    interleave (frames.map (Stereo.map f)) = (interleave frames).map f := by
  simp only [interleave, List.flatMap_map, List.map_flatMap]
  rfl

theorem takeFrames_eq {α : Type} (channels count : Nat) (xs : List α) :
    takeFrames channels count xs =
      (List.range count).map fun i => (xs.drop (i * channels)).take channels := by
  induction count generalizing xs with
  | zero => rfl
  | succ count ih =>
    rw [takeFrames, ih, List.range_succ_eq_map, List.map_cons, List.map_map]
    simp only [Nat.zero_mul, List.drop_zero, List.drop_drop, Function.comp_def, Nat.succ_mul,
      Nat.add_comm channels]

/-- What a conversion hands out: the samples that it was granted, in its format. -/
theorem Reformat.convert_mixed {stage : Reformat} {format : MixFormat} {size : Nat}
    (outline : stage.scratch.outline = some (format, size)) {asked : Nat} {b : Buffer}
    (le : b.frames ≤ asked) (fits : asked * stage.channels ≤ size)
    (whole : b.frames * stage.channels ≤ b.samples.size) :
    (stage.convert asked b).1.samples.singles =
      (b.samples.mixed format).take (b.frames * stage.channels) := by
  have inside : b.frames * stage.channels ≤ size :=
    Nat.le_trans (Nat.mul_le_mul_right _ le) fits
  cases format with
  | float => exact convert_singles outline le fits whole
  | pcm16 =>
    unfold convert
    cases held : stage.scratch with
    | passThrough => rw [held] at outline; nomatch outline
    | float samples => rw [held] at outline; nomatch (Prod.mk.inj (Option.some.inj outline)).1
    | pcm16 samples =>
      rw [held] at outline
      obtain ⟨-, rfl⟩ := Prod.mk.inj (Option.some.inj outline)
      have length : (b.samples.words.take (b.frames * stage.channels)).length =
          b.frames * stage.channels := by
        rw [List.length_take, Samples.length_words, Nat.min_eq_left whole]
      simp only [Nat.min_eq_left le]
      show ((overlay (b.samples.words.take (b.frames * stage.channels)) samples).take
        (b.frames * stage.channels)).map singleOfInt16 = _
      rw [Resampler.overlay_append _ _ (by rw [length]; exact inside), List.take_left' length,
        List.map_take]
      rfl

/-- Stereo singles that are narrowed to words are heard as these words. -/
theorem Reformat.convert_narrow {stage : Reformat} {size : Nat}
    (outline : stage.scratch.outline = some (.pcm16, size)) (width : stage.channels = 2)
    {asked : Nat} {b : Buffer} (le : b.frames ≤ asked) (fits : asked * stage.channels ≤ size)
    {frames : List (Stereo Float32)} (length : b.frames = frames.length)
    (samples : b.samples = .float (interleave frames).toArray) :
    (stage.convert asked b).1.frames = b.frames ∧
      (stage.convert asked b).1.stereo .stereo =
        frames.map (Stereo.map fun x => singleOfInt16 (int16OfSingle x)) := by
  have whole : (interleave frames).length = b.frames * stage.channels := by
    rw [length_interleave, length, width, Nat.mul_comm]
  have size : b.samples.size = (interleave frames).length := by rw [samples]; rfl
  have same := (convert_spec outline le fits).1
  refine ⟨same, Buffer.stereo_interleave ?_ ?_⟩
  · rw [same, length, List.length_map]
  · rw [convert_mixed outline le fits (Nat.le_of_eq (whole.symm.trans size.symm)), samples,
      interleave_map, ← whole]
    simp only [Samples.mixed, Samples.words, List.map_map, Function.comp_def]
    exact List.take_of_length_le (Nat.le_of_eq (List.length_map _))

/-- What a downmix hands out: each frame that it was granted, through its matrix. -/
theorem Downmixing.convert_frames {stage : Downmixing}
    (held : stage.held.length = stage.maxFrames * stage.inputChannels)
    (pos : 0 < stage.inputChannels) {asked : Nat} {b : Buffer} (le : b.frames ≤ asked)
    (fits : asked ≤ stage.maxFrames)
    (whole : b.frames * stage.inputChannels ≤ b.samples.size) :
    (stage.convert asked b).1.samples = .float (interleave ((List.range b.frames).map fun i =>
      stage.matrix.apply (b.frame stage.inputChannels i).singles)).toArray := by
  have inside : b.frames * stage.inputChannels ≤ stage.held.length := by
    rw [held]
    exact Nat.mul_le_mul_right _ (Nat.le_trans le fits)
  have length : (b.samples.singles.take (b.frames * stage.inputChannels)).length =
      b.frames * stage.inputChannels := by
    rw [List.length_take, Samples.length_singles, Nat.min_eq_left whole]
  unfold convert
  simp only [Nat.min_eq_left le]
  rw [Resampler.overlay_append _ _ (by rw [length]; exact inside), List.take_left' length]
  have frames : stage.matrix.applyAll
      (b.samples.singles.take (b.frames * stage.inputChannels)) b.frames =
        (List.range b.frames).map fun i =>
          stage.matrix.apply (b.frame stage.inputChannels i).singles := by
    unfold DownmixMatrix.applyAll
    rw [show stage.matrix.inputChannels = stage.inputChannels from rfl, length,
      Nat.mul_div_cancel _ pos, Nat.min_self, takeFrames_eq, List.map_map]
    apply List.map_congr_left
    intro i listed
    have room : i * stage.inputChannels + stage.inputChannels ≤ b.frames * stage.inputChannels := by
      rw [← Nat.succ_mul]
      exact Nat.mul_le_mul_right _ (List.mem_range.mp listed)
    rw [Function.comp_apply, Buffer.frame, Samples.singles_slice, Nat.succ_mul,
      Nat.add_sub_cancel_left, List.drop_take, List.take_take, Nat.min_eq_left (by omega)]
  rw [frames]

/-- What is heard of a frame through the stages of a layout. -/
def ChainLayout.voice (layout : ChainLayout) (mode : DownmixMode) (frame : Samples) :
    Stereo Float32 :=
  if layout.needsDownmix then
    let mixed := (DownmixMatrix.ofMask layout.mask mode).apply frame.singles
    match layout.mixInput with
    | .float => mixed
    | .pcm16 => mixed.map fun x => singleOfInt16 (int16OfSingle x)
  else (Channels.ofCount layout.mask.channelCount).frameAt (frame.mixed layout.mixInput) 0

/-- A downmix of a layout hands out what is heard of each frame, before it is narrowed. -/
theorem Downmixing.Like.convert_voice {stage : Downmixing} {layout : ChainLayout}
    {mode : DownmixMode} (like : stage.Like (layout.downmixing mode))
    (pos : 0 < layout.mask.channelCount) {asked : Nat} {b : Buffer} (le : b.frames ≤ asked)
    (fits : asked ≤ stage.maxFrames)
    (whole : b.frames * layout.mask.channelCount ≤ b.samples.size) :
    (stage.convert asked b).1.frames = b.frames ∧
      (stage.convert asked b).1.samples = .float (interleave ((List.range b.frames).map fun i =>
        (DownmixMatrix.ofMask layout.mask mode).apply
          (b.frame layout.mask.channelCount i).singles)).toArray := by
  obtain ⟨inputs, held⟩ := like.sized
  have matrix : stage.matrix = .ofMask layout.mask mode := like.matrix
  have converted := convert_frames held (inputs ▸ pos) le fits (inputs ▸ whole)
  rw [inputs, matrix] at converted
  exact ⟨(convert_spec held (inputs ▸ pos) le fits).1, converted⟩

theorem Reformat.exists_of_present {stage : Reformat} {asked : Nat} {answer : Option Buffer}
    {b' : Buffer} (given : (stage.present asked answer).1 = some b') :
    ∃ b, answer = some b ∧ (stage.convert asked b).1 = b' := by
  cases answer with
  | none => nomatch given
  | some b => exact ⟨b, rfl, Option.some.inj given⟩

theorem Downmixing.exists_of_present {stage : Downmixing} {asked : Nat} {answer : Option Buffer}
    {b' : Buffer} (given : (stage.present asked answer).1 = some b') :
    ∃ b, answer = some b ∧ (stage.convert asked b).1 = b' := by
  cases answer with
  | none => nomatch given
  | some b => exact ⟨b, rfl, Option.some.inj given⟩

/-- What is heard of frames that are converted for a layout without a downmix. -/
theorem ChainLayout.stereo_of_mixed {layout : ChainLayout}
    (few : layout.mask.channelCount ≤ maxMixChannels) (pos : 0 < layout.mask.channelCount)
    (mode : DownmixMode) {b b' : Buffer} (frames : b'.frames = b.frames)
    (same : b'.samples.singles.take (b.frames * layout.mask.channelCount) =
      (b.samples.mixed layout.mixInput).take (b.frames * layout.mask.channelCount)) :
    b'.stereo (.ofCount (min layout.mask.channelCount maxMixChannels)) =
      (List.range b.frames).map fun i =>
        layout.voice mode (b.frame layout.mask.channelCount i) := by
  have through : layout.needsDownmix = false := by
    simpa [needsDownmix] using few
  have count := Channels.count_ofCount pos few
  rw [← count] at same
  rw [Nat.min_eq_left few, Buffer.stereo_eq_mixed frames same, count]
  simp only [voice, through]
  rfl

namespace Chain

variable {σ : Type} [Provider σ] {layout : ChainLayout} {mode : DownmixMode} {chain : Chain σ}

/-- What a chain hands out is heard as the frames that its provider granted, one by one. -/
theorem Suits.stereo_request (suits : Suits layout mode chain)
    (grants : Provider.Grants chain.source (Provider.channels chain.source)
      (Provider.format chain.source))
    (fed : Fed layout chain) (pos : 0 < layout.mask.channelCount) {frames : Nat}
    {pts : Option Int} {b' : Buffer} (given : (Provider.request chain frames pts).1 = some b') :
    ∃ b, (Provider.request chain.source (chain.ask frames) pts).1 = some b ∧
      b'.frames = b.frames ∧
      b'.stereo (.ofCount (min layout.mask.channelCount maxMixChannels)) =
        (List.range b.frames).map fun i =>
          layout.voice mode (b.frame layout.mask.channelCount i) := by
  rw [fed.1, fed.2] at grants
  replace grants := grants (chain.ask frames) pts
  cases suits with
  | direct s few same =>
    have answer : (Provider.request s frames pts).1 = some b' := given
    obtain ⟨-, -, -, format⟩ := grants b' answer
    refine ⟨b', answer, rfl, ChainLayout.stereo_of_mixed few pos mode rfl ?_⟩
    rw [Samples.mixed_eq_singles (format.trans same)]
  | reformatted outer s few differ like =>
    obtain ⟨b, answer, rfl⟩ := Reformat.exists_of_present given
    obtain ⟨-, le, whole, -⟩ := grants b answer
    have le : b.frames ≤ outer.ask frames := le
    have outline := like.scratch.trans (Reformat.outline_new _ differ _)
    have width : outer.channels = layout.mask.channelCount :=
      like.channels.trans (Nat.max_eq_left pos)
    obtain ⟨-, fits⟩ := Reformat.ask_spec outline frames
    have converted := Reformat.convert_mixed outline le fits (by rw [width]; exact whole)
    obtain ⟨same, -, -⟩ := Reformat.convert_spec outline le fits
    refine ⟨b, answer, same, ChainLayout.stereo_of_mixed few pos mode same ?_⟩
    rw [converted, width, List.take_take, Nat.min_self]
  | downmixed inner s many float like =>
    obtain ⟨b, answer, rfl⟩ := Downmixing.exists_of_present given
    obtain ⟨-, le, whole, -⟩ := grants b answer
    have le : b.frames ≤ inner.ask frames := le
    obtain ⟨same, voices⟩ := like.convert_voice pos le (Nat.min_le_right _ _) whole
    refine ⟨b, answer, same, ?_⟩
    rw [Nat.min_eq_right (Nat.le_of_lt many)]
    refine (Buffer.stereo_interleave ?_ (congrArg Samples.singles voices)).trans ?_
    · rw [same, List.length_map, List.length_range]
    · simp only [ChainLayout.voice, ChainLayout.needsDownmix, many, decide_true, if_true, float]
  | downmixedReformatted outer inner s many pcm16 like like' =>
    obtain ⟨b₁, present, rfl⟩ := Reformat.exists_of_present given
    obtain ⟨b, answer, rfl⟩ := Downmixing.exists_of_present present
    obtain ⟨-, le, whole, -⟩ := grants b answer
    have le : b.frames ≤ inner.ask (outer.ask frames) := le
    obtain ⟨same, voices⟩ := like'.convert_voice pos le (Nat.min_le_right _ _) whole
    have differ : SampleFormat.float ≠ MixFormat.pcm16.toSample := by decide
    have outline := like.scratch.trans (Reformat.outline_new _ differ _)
    obtain ⟨-, fits⟩ := Reformat.ask_spec outline frames
    obtain ⟨narrow, heard⟩ := Reformat.convert_narrow outline like.channels
      (same.symm ▸ Nat.le_trans le (Nat.min_le_left _ _)) fits
      (by rw [same, List.length_map, List.length_range]) voices
    refine ⟨b, answer, narrow.trans same, ?_⟩
    rw [Nat.min_eq_right (Nat.le_of_lt many)]
    refine heard.trans ?_
    simp only [List.map_map, Function.comp_def, ChainLayout.voice, ChainLayout.needsDownmix, many,
      decide_true, if_true, pcm16]

end Chain

end Mixdown
