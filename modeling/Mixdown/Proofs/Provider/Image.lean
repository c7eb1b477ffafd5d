import Mixdown.Proofs.Mixer.WellFormed
import Mixdown.Proofs.Provider.Conversation

/-!
# The image of a provider

The frames that a chain grants are the frames that its provider grants, mapped one by one
(`ChainLayout.image`): left as they are, brought to the mix format, or folded into the front pair.
So a conversation with a chain is one with its provider, in which less is asked for at once, and
whatever stream the provider plays in it, the chain plays the image of.
-/

namespace Mixdown

namespace Samples

/-- The samples brought to a mix format. -/
def converted (s : Samples) : MixFormat → Samples
  | .pcm16 => .pcm16 s.words.toArray
  | .float => .float s.singles.toArray

theorem converted_slice (s : Samples) (format : MixFormat) (start stop : Nat) :
    (s.slice start stop).converted format = (s.converted format).slice start stop := by
  cases format with
  | pcm16 =>
    refine congrArg pcm16 (Array.toList_inj.mp ?_)
    rw [take_drop_extract]
    exact s.words_slice start stop
  | float =>
    refine congrArg float (Array.toList_inj.mp ?_)
    rw [take_drop_extract]
    exact s.singles_slice start stop

end Samples

namespace ChannelMask

/-- The channels of a frame, each times what the position of its number adds to a side, summed up in
channel order and held within full scale. -/
def folded (mask : ChannelMask) (mode : DownmixMode) (xs : List Float32)
    (side : Stereo Float32 → Float32) : Float32 :=
  Single.clamp (-1) 1 <| List.foldl (· + ·) 0 <|
    List.zipWith (fun x position => x * side (mode.gains position)) xs mask.positions

end ChannelMask

namespace DownmixMatrix

/-- One side of a frame through the matrix of a mask. -/
theorem apply_ofMask (mask : ChannelMask) (mode : DownmixMode) (xs : List Float32) :
    (ofMask mask mode).apply xs =
      ⟨mask.folded mode xs Stereo.left, mask.folded mode xs Stereo.right⟩ := by
  have sums (xs : List Float32) (positions : List UInt32) (acc : Stereo Float32) :
      (xs.zip (positions.map mode.gains)).foldl
        (fun acc p => (⟨acc.left + p.1 * p.2.left, acc.right + p.1 * p.2.right⟩ :
          Stereo Float32)) acc =
      ⟨(List.zipWith (fun x position => x * (mode.gains position).left) xs positions).foldl
          (· + ·) acc.left,
        (List.zipWith (fun x position => x * (mode.gains position).right) xs positions).foldl
          (· + ·) acc.right⟩ := by
    induction xs generalizing positions acc with
    | nil => rfl
    | cons x xs ih =>
      cases positions with
      | nil => rfl
      | cons position positions => exact ih positions _
  have sum : (ofMask mask mode).sum xs = _ := sums xs mask.positions ⟨0, 0⟩
  rw [apply, sum]
  rfl

end DownmixMatrix

namespace ChainLayout

/-- What becomes of one frame between a provider and the reader of its chain. -/
def image (layout : ChainLayout) (mode : DownmixMode) (frame : Samples) : Samples :=
  if layout.needsDownmix then
    let left := layout.mask.folded mode frame.singles Stereo.left
    let right := layout.mask.folded mode frame.singles Stereo.right
    match layout.mixInput with
    | .float => .float #[left, right]
    | .pcm16 => .pcm16 #[int16OfSingle left, int16OfSingle right]
  else if layout.format = layout.mixInput.toSample then frame
  else frame.converted layout.mixInput

section Image

variable {layout : ChainLayout} {mode : DownmixMode}

theorem image_direct (few : layout.mask.channelCount ≤ maxMixChannels)
    (same : layout.format = layout.mixInput.toSample) : layout.image mode = id := by
  funext frame
  simp [image, needsDownmix, Nat.not_lt_of_le few, same]

theorem image_reformatted (few : layout.mask.channelCount ≤ maxMixChannels)
    (differ : layout.format ≠ layout.mixInput.toSample) :
    layout.image mode = (Samples.converted · layout.mixInput) := by
  funext frame
  simp [image, needsDownmix, Nat.not_lt_of_le few, differ]

theorem image_downmixed (many : maxMixChannels < layout.mask.channelCount)
    (mixInput : layout.mixInput = .float) :
    layout.image mode = fun frame =>
      .float #[layout.mask.folded mode frame.singles Stereo.left,
        layout.mask.folded mode frame.singles Stereo.right] := by
  funext frame
  simp [image, needsDownmix, many, mixInput]

theorem image_narrowed (many : maxMixChannels < layout.mask.channelCount)
    (mixInput : layout.mixInput = .pcm16) :
    layout.image mode = fun frame =>
      Samples.converted (.float #[layout.mask.folded mode frame.singles Stereo.left,
        layout.mask.folded mode frame.singles Stereo.right]) .pcm16 := by
  funext frame
  simp [image, needsDownmix, many, mixInput, Samples.converted, Samples.words]

end Image

/-- What the provider is asked for when `frames` are asked of its chain: no more than the buffers
of the stages hold. -/
def passed (layout : ChainLayout) (frames : Nat) : Nat :=
  if layout.needsDownmix ∨ layout.format ≠ layout.mixInput.toSample then
    min frames (max layout.maxFrames 1)
  else frames

end ChainLayout

/-- What is asked of the provider when this is asked of its chain. -/
def Ask.passed (layout : ChainLayout) : Ask → Ask
  | request frames pts => request (layout.passed frames) pts
  | release frames => release frames

open Provider (Plays Proper converse rawFrames)

/-- The frames of a buffer that holds them and nothing else. -/
theorem rawFrames_slice (channels n : Nat) (s : Samples) :
    rawFrames channels ⟨n, s.slice 0 (n * channels)⟩ = rawFrames channels ⟨n, s⟩ := by
  apply List.map_congr_left
  intro i listed
  have room : (i + 1) * channels ≤ n * channels :=
    Nat.mul_le_mul_right _ (List.mem_range.mp listed)
  simp only [Buffer.frame]
  rw [Samples.slice_slice s (by omega), Nat.zero_add, Nat.zero_add]

theorem rawFrames_converted (channels n : Nat) (s : Samples) (format : MixFormat) :
    rawFrames channels ⟨n, s.converted format⟩ =
      (rawFrames channels ⟨n, s⟩).map (Samples.converted · format) := by
  rw [rawFrames, rawFrames, List.map_map]
  apply List.map_congr_left
  intro i _
  exact (s.converted_slice format _ _).symm

/-- The frames of a buffer of stereo singles. -/
theorem rawFrames_interleave (frames : List (Stereo Float32)) :
    rawFrames maxMixChannels ⟨frames.length, .float (interleave frames).toArray⟩ =
      frames.map fun frame => .float #[frame.left, frame.right] := by
  have whole : takeFrames maxMixChannels frames.length (interleave frames) =
      frames.map Stereo.toList := by
    induction frames with
    | nil => rfl
    | cons frame frames ih => exact congrArg (frame.toList :: ·) ih
  calc rawFrames maxMixChannels ⟨frames.length, .float (interleave frames).toArray⟩
      = (takeFrames maxMixChannels frames.length (interleave frames)).map
          fun xs => Samples.float xs.toArray := by
        rw [takeFrames_eq, List.map_map]
        apply List.map_congr_left
        intro i _
        refine congrArg Samples.float (Array.toList_inj.mp ?_)
        rw [take_drop_extract, Nat.succ_mul, Nat.add_sub_cancel_left]
    _ = frames.map fun frame => .float #[frame.left, frame.right] := by
        rw [whole, List.map_map]
        rfl

namespace Reformat

/-- What a conversion hands out: the samples that it was granted, in its format. -/
theorem convert_samples {stage : Reformat} {format : MixFormat} {size : Nat}
    (outline : stage.scratch.outline = some (format, size)) {asked : Nat} {b : Buffer}
    (le : b.frames ≤ asked) (fits : asked * stage.channels ≤ size)
    (whole : b.frames * stage.channels ≤ b.samples.size) :
    (stage.convert asked b).1 =
      ⟨b.frames, (b.samples.converted format).slice 0 (b.frames * stage.channels)⟩ := by
  have inside : b.frames * stage.channels ≤ size :=
    Nat.le_trans (Nat.mul_le_mul_right _ le) fits
  have kept {α : Type} {xs held : List α} {n : Nat} (long : n ≤ xs.length)
      (room : n ≤ held.length) : ((overlay (xs.take n) held).take n).toArray =
        xs.toArray.extract 0 n := by
    have length : (xs.take n).length = n := by rw [List.length_take, Nat.min_eq_left long]
    rw [Resampler.overlay_append _ _ (by rw [length]; exact room), List.take_left' length]
    apply Array.toList_inj.mp
    rw [take_drop_extract, List.drop_zero, Nat.sub_zero]
  unfold convert
  cases held : stage.scratch with
  | passThrough => rw [held] at outline; nomatch outline
  | pcm16 samples =>
    rw [held] at outline
    obtain ⟨rfl, rfl⟩ := Prod.mk.inj (Option.some.inj outline)
    simp only [Nat.min_eq_left le, Samples.converted, Samples.slice]
    rw [kept (by rw [Samples.length_words]; exact whole) inside]
  | float samples =>
    rw [held] at outline
    obtain ⟨rfl, rfl⟩ := Prod.mk.inj (Option.some.inj outline)
    simp only [Nat.min_eq_left le, Samples.converted, Samples.slice]
    rw [kept (by rw [Samples.length_singles]; exact whole) inside]

/-- A conversion maps the frames that it was granted. -/
theorem convert_frames {stage : Reformat} {format : MixFormat} {size : Nat}
    (outline : stage.scratch.outline = some (format, size)) {asked : Nat} {b : Buffer}
    (le : b.frames ≤ asked) (fits : asked * stage.channels ≤ size)
    (whole : b.frames * stage.channels ≤ b.samples.size) :
    rawFrames stage.channels (stage.convert asked b).1 =
      (rawFrames stage.channels b).map (Samples.converted · format) := by
  rw [convert_samples outline le fits whole, rawFrames_slice, rawFrames_converted]

/-- A conversion asks for what fits into its buffer. -/
theorem Like.ask_eq_min {stage : Reformat} {channels maxFrames : Nat} {input : SampleFormat}
    {output : MixFormat} (like : stage.Like (.new channels input output maxFrames))
    (differ : input ≠ output.toSample) (frames : Nat) :
    stage.ask frames = min frames (max maxFrames 1) := by
  have outline := like.scratch.trans (outline_new channels differ maxFrames)
  have width : stage.channels = max channels 1 := like.channels
  unfold ask
  cases held : stage.scratch with
  | passThrough => rw [held] at outline; nomatch outline
  | pcm16 samples | float samples =>
    rw [held] at outline
    obtain ⟨-, size⟩ := Prod.mk.inj (Option.some.inj outline)
    show min frames (samples.length / stage.channels) = _
    rw [size, width, Nat.mul_div_cancel _ (by omega)]

end Reformat

namespace Downmixing

/-- A downmix folds the frames that it was granted. -/
theorem Like.convert_folded {stage : Downmixing} {layout : ChainLayout} {mode : DownmixMode}
    (like : stage.Like (layout.downmixing mode)) (pos : 0 < layout.mask.channelCount) {asked : Nat}
    {b : Buffer} (le : b.frames ≤ asked) (fits : asked ≤ stage.maxFrames)
    (whole : b.frames * layout.mask.channelCount ≤ b.samples.size) :
    rawFrames maxMixChannels (stage.convert asked b).1 =
      (rawFrames layout.mask.channelCount b).map fun frame =>
        .float #[layout.mask.folded mode frame.singles Stereo.left,
          layout.mask.folded mode frame.singles Stereo.right] := by
  obtain ⟨same, samples⟩ := like.convert_voice pos le fits whole
  have folded := rawFrames_interleave ((List.range b.frames).map fun i =>
    (DownmixMatrix.ofMask layout.mask mode).apply (b.frame layout.mask.channelCount i).singles)
  rw [List.length_map, List.length_range, ← samples, ← same] at folded
  refine folded.trans ?_
  simp only [rawFrames, List.map_map, same, Function.comp_def, DownmixMatrix.apply_ofMask]

end Downmixing

namespace Chain

variable {σ : Type} [Provider σ] {layout : ChainLayout} {mode : DownmixMode} {chain : Chain σ}

omit [Provider σ] in
theorem Suits.ask_eq (suits : Suits layout mode chain) (frames : Nat) :
    chain.ask frames = layout.passed frames := by
  unfold ChainLayout.passed ChainLayout.needsDownmix
  cases suits with
  | direct s few same => simp [ask, same, Nat.not_lt_of_le few]
  | reformatted outer s few differ like => simp [ask, differ, like.ask_eq_min differ]
  | downmixed inner s many float like =>
    have maxFrames : inner.maxFrames = max layout.maxFrames 1 := like.maxFrames
    simp [ask, many, Downmixing.ask, maxFrames]
  | downmixedReformatted outer inner s many pcm16 like like' =>
    have maxFrames : inner.maxFrames = max layout.maxFrames 1 := like'.maxFrames
    have outer_ask := like.ask_eq_min (by decide) frames
    simp [ask, many, Downmixing.ask, maxFrames, outer_ask]

/-- A request of a chain is one of its provider, whose frames are mapped one by one. -/
theorem Suits.request_image (honest : Provider.Honest σ) (suits : Suits layout mode chain)
    (fed : Fed layout chain) (pos : 0 < layout.mask.channelCount) (frames : Nat)
    (pts : Option Int) :
    (Provider.request chain frames pts).1.map
        (rawFrames (min layout.mask.channelCount maxMixChannels)) =
      (Provider.request chain.source (layout.passed frames) pts).1.map fun b =>
        (rawFrames layout.mask.channelCount b).map (layout.image mode) := by
  have grants := honest.grants chain.source (layout.passed frames) pts
  have asked := suits.ask_eq frames
  rw [fed.1, fed.2] at grants
  rw [← asked] at grants ⊢
  cases suits with
  | direct s few same =>
    rw [Nat.min_eq_left few, ChainLayout.image_direct few same]
    simp only [List.map_id]
    rfl
  | reformatted outer s few differ like =>
    have outline := like.scratch.trans (Reformat.outline_new _ differ _)
    have width : outer.channels = layout.mask.channelCount :=
      like.channels.trans (Nat.max_eq_left pos)
    obtain ⟨-, fits⟩ := Reformat.ask_spec outline frames
    rw [Nat.min_eq_left few, ChainLayout.image_reformatted few differ, ← width]
    show (outer.present (outer.ask frames) (Provider.request s (outer.ask frames) pts).1).1.map _ =
      (Provider.request s (outer.ask frames) pts).1.map _
    cases answer : (Provider.request s (outer.ask frames) pts).1 with
    | none => rfl
    | some b =>
      obtain ⟨-, le, whole, -⟩ := grants b answer
      exact congrArg some (Reformat.convert_frames outline le fits (width ▸ whole))
  | downmixed inner s many float like =>
    rw [Nat.min_eq_right (Nat.le_of_lt many), ChainLayout.image_downmixed many float]
    show (inner.present (inner.ask frames) (Provider.request s (inner.ask frames) pts).1).1.map _ =
      (Provider.request s (inner.ask frames) pts).1.map _
    cases answer : (Provider.request s (inner.ask frames) pts).1 with
    | none => rfl
    | some b =>
      obtain ⟨-, le, whole, -⟩ := grants b answer
      exact congrArg some (like.convert_folded pos le (Nat.min_le_right _ _) whole)
  | downmixedReformatted outer inner s many pcm16 like like' =>
    have differ : SampleFormat.float ≠ MixFormat.pcm16.toSample := by decide
    have outline := like.scratch.trans (Reformat.outline_new _ differ _)
    have width : outer.channels = maxMixChannels := like.channels
    obtain ⟨-, fits⟩ := Reformat.ask_spec outline frames
    rw [Nat.min_eq_right (Nat.le_of_lt many), ChainLayout.image_narrowed many pcm16]
    show (outer.present (outer.ask frames) (inner.present (inner.ask (outer.ask frames))
        (Provider.request s (inner.ask (outer.ask frames)) pts).1).1).1.map _ =
      (Provider.request s (inner.ask (outer.ask frames)) pts).1.map _
    cases answer : (Provider.request s (inner.ask (outer.ask frames)) pts).1 with
    | none => rfl
    | some b =>
      obtain ⟨-, le, whole, -⟩ := grants b answer
      have le : b.frames ≤ inner.ask (outer.ask frames) := le
      obtain ⟨inputs, held⟩ := like'.sized
      obtain ⟨same, whole', -⟩ :=
        Downmixing.convert_spec held (inputs ▸ pos) le (Nat.min_le_right _ _)
      have folded := like'.convert_folded pos le (Nat.min_le_right _ _) whole
      have narrowed := Reformat.convert_frames outline
        (same.symm ▸ Nat.le_trans le (Nat.min_le_left _ _)) fits
        (Nat.le_of_eq (by rw [same, whole', width]))
      rw [width, folded, List.map_map] at narrowed
      exact congrArg some narrowed

/-- A chain plays the image of the stream that its provider plays. -/
theorem plays (mode : DownmixMode) (honest : Provider.Honest σ)
    (pos : 0 < layout.mask.channelCount) {x : Nat → Samples} {At : σ → Nat → Nat → Prop}
    (plays : Plays layout.mask.channelCount x At) :
    Plays (min layout.mask.channelCount maxMixChannels) (fun i => layout.image mode (x i))
      fun (chain : Chain σ) p held => chain.Suits layout mode ∧ chain.Fed layout ∧
        At chain.source p held where
  refused := by
    rintro chain chain' p held frames pts ⟨suits, fed, start⟩ some_asked answer
    have suits' := suits.request frames pts
    have fed' := fed.moves honest.toSteady (.request frames pts .refl)
    have mapped := suits.request_image honest fed pos frames pts
    have some_passed := suits.ask_pos some_asked
    obtain ⟨source, -⟩ := chain.request_handed frames pts
    rw [suits.ask_eq] at source some_passed
    rw [answer] at suits' fed' mapped source
    have given := Option.map_eq_none_iff.mp mapped.symm
    exact ⟨suits', fed', plays.refused start some_passed (Prod.ext given source.symm)⟩
  granted := by
    rintro chain chain' p held frames pts b' ⟨suits, fed, start⟩ some_asked answer
    have suits' := suits.request frames pts
    have fed' := fed.moves honest.toSteady (.request frames pts .refl)
    have mapped := suits.request_image honest fed pos frames pts
    have some_passed := suits.ask_pos some_asked
    obtain ⟨source, -⟩ := chain.request_handed frames pts
    rw [suits.ask_eq] at source some_passed
    rw [answer] at suits' fed' mapped source
    obtain ⟨b, given, image⟩ := Option.map_eq_some_iff.mp mapped.symm
    obtain ⟨raw, after⟩ := plays.granted start some_passed (Prod.ext given source.symm)
    have same : b.frames = b'.frames := by
      simpa [rawFrames] using congrArg List.length image
    rw [same] at raw after
    refine ⟨?_, suits', fed', after⟩
    rw [← image, raw, List.map_map]
    rfl
  released := by
    rintro chain p held frames ⟨suits, fed, start⟩ few
    refine ⟨suits.mapSource _, fed.moves honest.toSteady (.release frames .refl), ?_⟩
    rw [source_release]
    exact plays.released start few

/-- Between a chain and its provider, a conversation goes on frame by frame. -/
theorem Suits.converse (honest : Provider.Honest σ) (suits : Suits layout mode chain)
    (fed : Fed layout chain) (pos : 0 < layout.mask.channelCount) (asks : List Ask) :
    (converse chain asks).2.Suits layout mode ∧ (converse chain asks).2.Fed layout ∧
      (converse chain asks).2.source = (converse chain.source (asks.map (.passed layout))).2 ∧
      (converse chain asks).1.map
          (Option.map (rawFrames (min layout.mask.channelCount maxMixChannels))) =
        (converse chain.source (asks.map (.passed layout))).1.map
          (Option.map fun b => (rawFrames layout.mask.channelCount b).map (layout.image mode)) ∧
      ∀ b, some b ∈ (converse chain asks).1 →
        b.frames * min layout.mask.channelCount maxMixChannels ≤ b.samples.size ∧
          b.samples.format = layout.mixInput.toSample := by
  induction asks generalizing chain with
  | nil => exact ⟨suits, fed, rfl, rfl, nofun⟩
  | cons ask asks ih =>
    cases ask with
    | request frames pts =>
      have mapped := suits.request_image honest fed pos frames pts
      obtain ⟨source, -⟩ := chain.request_handed frames pts
      rw [suits.ask_eq] at source
      obtain ⟨suits', fed', source', mapped', kept⟩ := ih (suits.request frames pts)
        (fed.moves honest.toSteady (.request frames pts .refl))
      rw [source] at source' mapped'
      refine ⟨suits', fed', source', List.cons_eq_cons.mpr ⟨mapped, mapped'⟩, ?_⟩
      intro b listed
      rcases List.mem_cons.mp listed with answer | listed
      · exact (suits.grants (honest.grants _) fed pos frames pts b answer.symm).2.2
      · exact kept b listed
    | release frames =>
      have source := chain.source_release frames
      obtain ⟨suits', fed', source', mapped', kept⟩ := ih (suits.mapSource _)
        (fed.moves honest.toSteady (.release frames .refl))
      rw [show (chain.mapSource fun s => Provider.release s frames).source =
        Provider.release chain.source frames from source] at source' mapped'
      exact ⟨suits', fed', source', mapped', kept⟩

end Chain

end Mixdown
