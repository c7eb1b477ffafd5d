import Mixdown.Proofs.Provider.Supply

/-!
# The 16-bit samples that a provider delivers

`Delivers` takes a provider of 16-bit samples by itself, without the stages above it: the words of
its buffers, one buffer after another, until a block is full or the provider refuses. What a mixer
reads through a chain without a downmix are these words as singles, whether they are converted on
the way or by the mixer.
-/

namespace Mixdown

/-- The frames of a buffer as stereo words; one channel is heard on both sides. -/
def Buffer.wordFrames (b : Buffer) (channels : Channels) : List (Stereo Int16) :=
  (List.range b.frames).map fun i => match channels with
    | .mono => .both (b.samples.words.getD i 0)
    | .stereo => ⟨b.samples.words.getD (2 * i) 0, b.samples.words.getD (2 * i + 1) 0⟩

namespace Provider

variable {σ : Type} [Provider σ]

/-- The words that a provider delivers for a block of which `left` frames are missing and `done`
are there. -/
inductive Delivers (channels : Channels) (stamp : Nat → Option Int) :
    (left done : Nat) → σ → List (Stereo Int16) → Prop
  | full (done : Nat) (s : σ) : Delivers channels stamp 0 done s []
  | refused {left done : Nat} {s s' : σ} : 0 < left →
      request s left (stamp done) = (none, s') → Delivers channels stamp left done s []
  | granted {left done : Nat} {s s' : σ} {b : Buffer} {more : List (Stereo Int16)} :
      0 < left → request s left (stamp done) = (some b, s') →
      Delivers channels stamp (left - b.frames) (done + b.frames) (release s' b.frames) more →
      Delivers channels stamp left done s (b.wordFrames channels ++ more)

/-- A provider delivers one list of words only. -/
theorem Delivers.unique {channels : Channels} {stamp : Nat → Option Int} {left done : Nat} {s : σ}
    {words words' : List (Stereo Int16)} (first : Delivers channels stamp left done s words)
    (second : Delivers channels stamp left done s words') : words = words' := by
  induction first generalizing words' with
  | full done s =>
    cases second with
    | full => rfl
    | refused pos => exact absurd pos (Nat.lt_irrefl 0)
    | granted pos => exact absurd pos (Nat.lt_irrefl 0)
  | refused pos answer =>
    cases second with
    | full => exact absurd pos (Nat.lt_irrefl 0)
    | refused => rfl
    | granted _ answer' => nomatch (Prod.mk.inj (answer.symm.trans answer')).1
  | granted pos answer _ ih =>
    cases second with
    | full => exact absurd pos (Nat.lt_irrefl 0)
    | refused _ answer' => nomatch (Prod.mk.inj (answer.symm.trans answer')).1
    | granted _ answer' rest =>
      obtain ⟨same, rfl⟩ := Prod.mk.inj (answer.symm.trans answer')
      obtain rfl := Option.some.inj same
      rw [ih rest]

end Provider

/-- 16-bit samples as singles. -/
theorem Samples.singles_eq_words {s : Samples} (format : s.format = .pcm16) :
    s.singles = s.words.map singleOfInt16 := by
  cases s with
  | pcm16 data => rfl
  | pcm24Packed _ | pcm32 _ | float _ => nomatch format

/-- A buffer whose first samples are those of another one, as singles, is heard as its words. -/
theorem Buffer.stereo_eq_words {b b' : Buffer} {channels : Channels} (frames : b'.frames = b.frames)
    (whole : b.frames * channels.count ≤ b.samples.size) (format : b.samples.format = .pcm16)
    (same : b'.samples.singles.take (b.frames * channels.count) =
      b.samples.singles.take (b.frames * channels.count)) :
    b'.stereo channels = (b.wordFrames channels).map (Stereo.map singleOfInt16) := by
  have heard : ∀ i, i < b.frames * channels.count →
      b'.samples.singles.getD i 0 = singleOfInt16 (b.samples.words.getD i 0) := by
    intro i inside
    have at_i := congrArg (fun samples => samples[i]?) same
    have there : i < b.samples.words.length := by
      have length : b.samples.singles.length = b.samples.words.length := by
        rw [Samples.singles_eq_words format, List.length_map]
      rw [← length, Samples.length_singles]
      omega
    simp only [List.getElem?_take, if_pos inside, Samples.singles_eq_words format,
      List.getElem?_map, List.getElem?_eq_getElem there, Option.map_some] at at_i
    rw [List.getD_eq_getElem?_getD, List.getD_eq_getElem?_getD, at_i,
      List.getElem?_eq_getElem there]
    rfl
  unfold Buffer.stereo Buffer.wordFrames
  rw [frames, List.map_map]
  apply List.map_congr_left
  intro i inside
  have inside : i < b.frames := List.mem_range.mp inside
  cases channels with
  | mono =>
    have first := heard i (by simpa [Channels.count] using inside)
    simp only [Function.comp_apply, Stereo.map, Stereo.both, first]
  | stereo =>
    have first := heard (2 * i) (by simp only [Channels.count]; omega)
    have second := heard (2 * i + 1) (by simp only [Channels.count]; omega)
    simp only [Function.comp_apply, Stereo.map, first, second]

/-- A conversion with room for a request passes it on, and hands out what it was granted as
singles. -/
theorem Reformat.convert_singles {stage : Reformat} {size : Nat}
    (outline : stage.scratch.outline = some (.float, size)) {asked : Nat} {b : Buffer}
    (le : b.frames ≤ asked) (fits : asked * stage.channels ≤ size)
    (whole : b.frames * stage.channels ≤ b.samples.size) :
    (stage.convert asked b).1.samples.singles =
      b.samples.singles.take (b.frames * stage.channels) := by
  have inside : b.frames * stage.channels ≤ size :=
    Nat.le_trans (Nat.mul_le_mul_right _ le) fits
  unfold convert
  cases held : stage.scratch with
  | passThrough => rw [held] at outline; nomatch outline
  | pcm16 samples => rw [held] at outline; nomatch (Prod.mk.inj (Option.some.inj outline)).1
  | float samples =>
    rw [held] at outline
    obtain ⟨-, rfl⟩ := Prod.mk.inj (Option.some.inj outline)
    have length : (b.samples.singles.take (b.frames * stage.channels)).length =
        b.frames * stage.channels := by
      rw [List.length_take, Samples.length_singles, Nat.min_eq_left whole]
    simp only [Nat.min_eq_left le]
    show (overlay (b.samples.singles.take (b.frames * stage.channels)) samples).take
      (b.frames * stage.channels) = _
    rw [Resampler.overlay_append _ _ (by rw [length]; exact inside), List.take_left' length]

/-- Words that were converted to singles are read as the words that they were. -/
theorem Reformat.listen_convert {stage : Reformat} {size : Nat}
    (outline : stage.scratch.outline = some (.float, size)) {channels : Channels}
    (width : stage.channels = channels.count) {asked : Nat} {b : Buffer} (le : b.frames ≤ asked)
    (fits : asked * stage.channels ≤ size) (whole : b.frames * channels.count ≤ b.samples.size)
    (format : b.samples.format = .pcm16) :
    listen .float channels asked (stage.convert asked b).1 =
      (b.frames, some ((b.wordFrames channels).map (Stereo.map singleOfInt16))) := by
  obtain ⟨same, filled, converted⟩ := convert_spec outline le fits
  have singles := convert_singles outline le fits (by rw [width]; exact whole)
  rw [width] at filled singles
  have heard := Buffer.stereo_eq_words same whole format (by
    rw [singles, List.take_take, Nat.min_self])
  rw [listen_whole .float channels (same ▸ le) (Nat.le_of_eq (same.symm ▸ filled.symm)) converted,
    same, heard]

/-- A conversion asks for all that its buffer has room for. -/
theorem Reformat.ask_eq {stage : Reformat} {format : MixFormat} {size : Nat}
    (outline : stage.scratch.outline = some (format, size)) (pos : 0 < stage.channels)
    {frames : Nat} (fits : frames * stage.channels ≤ size) : stage.ask frames = frames := by
  have room : frames ≤ size / stage.channels := (Nat.le_div_iff_mul_le pos).mpr fits
  unfold ask
  cases held : stage.scratch with
  | passThrough => rfl
  | pcm16 samples =>
    rw [held] at outline
    obtain ⟨-, rfl⟩ := Prod.mk.inj (Option.some.inj outline)
    exact Nat.min_eq_left room
  | float samples =>
    rw [held] at outline
    obtain ⟨-, rfl⟩ := Prod.mk.inj (Option.some.inj outline)
    exact Nat.min_eq_left room

namespace Chain

open Provider (Moves Delivers Granted Grants)

variable {σ : Type} [Provider σ] {layout : ChainLayout} {mode : DownmixMode} {chain : Chain σ}

/-- A chain without a downmix passes a request of a block on to its provider of 16-bit samples, and
the words that this grants are read as singles. -/
theorem Suits.listen_words (suits : Suits layout mode chain) {channels : Channels}
    (count : channels.count = layout.mask.channelCount) (words : layout.format = .pcm16)
    {frames : Nat} (fits : frames ≤ layout.maxFrames) (pts : Option Int)
    (granted : Granted (Provider.request chain.source frames pts).1 frames channels.count .pcm16) :
    (Provider.request chain frames pts).2.source =
        (Provider.request chain.source frames pts).2 ∧
      ((Provider.request chain.source frames pts).1 = none →
        (Provider.request chain frames pts).1 = none) ∧
      ∀ b, (Provider.request chain.source frames pts).1 = some b → ∃ b',
        (Provider.request chain frames pts).1 = some b' ∧
        listen layout.mixInput channels frames b' =
          (b.frames, some ((b.wordFrames channels).map (Stereo.map singleOfInt16))) := by
  have pos : 0 < channels.count := by cases channels <;> decide
  have few : layout.mask.channelCount ≤ maxMixChannels := by
    rw [← count]
    cases channels <;> decide
  cases suits with
  | direct source _ same =>
    refine ⟨rfl, id, ?_⟩
    intro b answer
    obtain ⟨-, le, whole, format⟩ := granted b answer
    refine ⟨b, answer, ?_⟩
    rw [listen_whole layout.mixInput channels le whole (format.trans (words.symm.trans same)),
      Buffer.stereo_eq_words rfl whole format rfl]
  | reformatted outer source _ differ like =>
    have float : layout.mixInput = .float := by
      cases input : layout.mixInput with
      | float => rfl
      | pcm16 => exact absurd (by rw [words, input]; rfl) differ
    have outline := like.scratch.trans (Reformat.outline_new _ differ _)
    have width : outer.channels = channels.count := by
      rw [count]
      exact like.channels.trans (Nat.max_eq_left (count ▸ pos))
    rw [float] at outline
    rw [← count, Nat.max_eq_left pos] at outline
    have room : frames * outer.channels ≤ max layout.maxFrames 1 * channels.count := by
      rw [width]
      exact Nat.mul_le_mul_right _ (Nat.le_trans fits (Nat.le_max_left _ _))
    have asked := Reformat.ask_eq outline (width ▸ pos) room
    show (Provider.request source (outer.ask frames) pts).2 = _ ∧
      (_ → (outer.present (outer.ask frames)
        (Provider.request source (outer.ask frames) pts).1).1 = none) ∧
      ∀ b, _ → ∃ b', (outer.present (outer.ask frames)
        (Provider.request source (outer.ask frames) pts).1).1 = some b' ∧ _
    rw [asked]
    refine ⟨rfl, ?_, ?_⟩
    · intro refused
      show (outer.present frames (Provider.request source frames pts).1).1 = none
      rw [show (Provider.request source frames pts).1 = none from refused]
      rfl
    · intro b answer
      obtain ⟨-, le, whole, format⟩ := granted b answer
      have answer : (Provider.request source frames pts).1 = some b := answer
      refine ⟨(outer.convert frames b).1, by rw [answer]; rfl, ?_⟩
      rw [float]
      exact Reformat.listen_convert outline width le room whole format
  | downmixed _ _ many => exact absurd many (Nat.not_lt_of_le few)
  | downmixedReformatted _ _ _ many => exact absurd many (Nat.not_lt_of_le few)

/-- What is read through a chain without a downmix is what the provider below it delivers. -/
theorem Suits.pullFrom_delivers {channels : Channels}
    (count : channels.count = layout.mask.channelCount) (words : layout.format = .pcm16)
    (stamp : Nat → Option Int) {fuel left : Nat} (enough : left ≤ fuel)
    (fits : left ≤ layout.maxFrames) (done : Nat) {chain : Chain σ}
    (suits : Suits layout mode chain)
    (grants : ∀ s', Moves chain.source s' → Grants s' channels.count .pcm16) :
    ∃ delivered, Delivers channels stamp left done chain.source delivered ∧
      delivered.length ≤ left ∧
      (Provider.pullFrom (listen layout.mixInput channels) stamp fuel left done chain).1 =
        delivered.map (Stereo.map singleOfInt16) := by
  induction fuel generalizing left done chain with
  | zero =>
    obtain rfl := Nat.le_zero.mp enough
    exact ⟨[], .full done _, Nat.le_refl _, rfl⟩
  | succ fuel ih =>
    unfold Provider.pullFrom
    by_cases none_left : left = 0
    · subst none_left
      exact ⟨[], .full done _, Nat.le_refl _, rfl⟩
    · have pos : 0 < left := Nat.pos_of_ne_zero none_left
      have granted := grants chain.source .refl left (stamp done)
      obtain ⟨moved, refused, read⟩ := suits.listen_words count words fits (stamp done) granted
      have suits := suits.request left (stamp done)
      rw [if_neg none_left]
      rcases answer : Provider.request chain.source left (stamp done) with ⟨_ | b, s'⟩
      · rw [answer] at refused
        rcases reply : Provider.request chain left (stamp done) with ⟨_ | b', chain'⟩
        · exact ⟨[], .refused pos answer, Nat.zero_le _, rfl⟩
        · rw [reply] at refused
          exact absurd (refused rfl) (Option.some_ne_none b')
      · rw [answer] at read moved granted
        obtain ⟨b', given, heard⟩ := read b rfl
        obtain ⟨some_frames, le, -, -⟩ := granted b rfl
        rcases reply : Provider.request chain left (stamp done) with ⟨given', chain'⟩
        rw [reply] at given moved suits
        obtain rfl : given' = some b' := given
        have below : (Provider.release chain' b.frames).source = Provider.release s' b.frames := by
          rw [source_release]
          exact congrArg (Provider.release · b.frames) moved
        have asked : Moves chain.source s' := by
          have step : Moves chain.source (Provider.request chain.source left (stamp done)).2 :=
            .request _ _ .refl
          rw [answer] at step
          exact step
        obtain ⟨more, delivers, short, rest⟩ := ih (show left - b.frames ≤ fuel by omega) (by omega)
          (done + b.frames) (suits.mapSource fun s => Provider.release s b.frames) (by
            intro s'' moves
            have moves : Moves (Provider.release chain' b.frames).source s'' := moves
            rw [below] at moves
            exact grants s'' (.trans (.release b.frames asked) moves))
        have delivers : Delivers channels stamp (left - b.frames) (done + b.frames)
            (Provider.release chain' b.frames).source more := delivers
        rw [below] at delivers
        refine ⟨b.wordFrames channels ++ more, .granted pos answer delivers, ?_, ?_⟩
        · simp only [List.length_append, Buffer.wordFrames, List.length_map, List.length_range]
          omega
        · simp only [heard, if_neg (Nat.ne_of_gt some_frames), List.map_append]
          exact congrArg (_ ++ ·) rest

end Chain

end Mixdown
