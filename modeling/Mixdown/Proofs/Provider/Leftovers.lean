import Mixdown.Proofs.Provider.Stages

/-!
# What is left over in the stages of a chain

The buffers of the stages are not cleared between requests. Where a provider delivers the samples
of all frames that it claims, a stage hands out fresh samples only, so nothing that its buffer was
left with is read. Otherwise the buffer shows through, but not in the number of frames.
-/

namespace Mixdown

/-- What is copied to the start of a buffer does not depend on what the buffer held. -/
theorem take_overlay {α : Type} {fresh stale stale' : List α}
    (length : stale'.length = stale.length) {n : Nat} (inside : n ≤ fresh.length) :
    (overlay fresh stale').take n = (overlay fresh stale).take n := by
  unfold overlay
  rw [length]
  by_cases fits : fresh.length ≤ stale.length
  · have within : n ≤ (fresh.take stale.length).length := by
      rw [List.length_take, Nat.min_eq_right fits]
      exact inside
    rw [List.take_append_of_le_length within, List.take_append_of_le_length within]
  · have short : stale.length ≤ fresh.length := Nat.le_of_not_le fits
    rw [List.drop_eq_nil_of_le (Nat.le_trans (Nat.le_of_eq length) short),
      List.drop_eq_nil_of_le short]

/-- The same for the first samples of a run that has as many. -/
theorem take_overlay_take {α : Type} {samples stale stale' : List α}
    (length : stale'.length = stale.length) {n : Nat} (covered : n ≤ samples.length) :
    (overlay (samples.take n) stale').take n = (overlay (samples.take n) stale).take n := by
  apply take_overlay length
  rw [List.length_take]
  exact Nat.le_min.mpr ⟨Nat.le_refl n, covered⟩

namespace Provider

variable {σ α : Type} [Provider σ]

/-- The buffers that a provider grants from now on hold the samples of the frames that they claim,
as far as these were asked for. -/
def Covers (s : σ) (channels : Nat) : Prop :=
  ∀ s', Moves s s' → ∀ frames pts b, (request s' frames pts).1 = some b →
    min b.frames frames * channels ≤ b.samples.size

theorem Covers.moves {s s' : σ} {channels : Nat} (covers : Covers s channels)
    (moves : Moves s s') : Covers s' channels :=
  fun s'' later => covers s'' (moves.trans later)

/-- Two providers that answer a reader alike and go on to do so give it the same values. -/
theorem pullFrom_rel {R : σ → σ → Prop} {reader : Reader α}
    (request : ∀ s s', R s s' → ∀ left pts,
      R (request s left pts).2 (request s' left pts).2 ∧
        (request s' left pts).1.map (reader left) = (request s left pts).1.map (reader left))
    (release : ∀ s s', R s s' → ∀ frames, R (release s frames) (release s' frames))
    (stamp : Nat → Option Int) (fuel left done : Nat) {s s' : σ} (related : R s s') :
    (pullFrom reader stamp fuel left done s').1 = (pullFrom reader stamp fuel left done s).1 ∧
      R (pullFrom reader stamp fuel left done s).2 (pullFrom reader stamp fuel left done s').2 := by
  induction fuel generalizing left done s s' with
  | zero => exact ⟨rfl, related⟩
  | succ fuel ih =>
    unfold pullFrom
    by_cases none_left : left = 0
    · simp only [none_left, if_true]
      exact ⟨trivial, related⟩
    · simp only [none_left, if_false]
      obtain ⟨next, alike⟩ := request s s' related left (stamp done)
      generalize Provider.request s left (stamp done) = answer,
        Provider.request s' left (stamp done) = answer' at next alike ⊢
      obtain ⟨buffer, t⟩ := answer
      obtain ⟨buffer', t'⟩ := answer'
      cases buffer with
      | none =>
        cases buffer' with
        | none => exact ⟨rfl, next⟩
        | some _ => cases alike
      | some b =>
        cases buffer' with
        | none => cases alike
        | some b' =>
          have same : reader left b' = reader left b := Option.some.inj alike
          simp only [same]
          rcases reader left b with ⟨released, _ | values⟩
          · exact ⟨rfl, release t t' next released⟩
          · simp only
            split
            · exact ⟨rfl, release t t' next released⟩
            · obtain ⟨more, after⟩ := ih (left - released) (done + released)
                (release t t' next released)
              exact ⟨congrArg (values ++ ·) more, after⟩

/-- A provider whose buffers hold the whole frames that they claim covers every request. -/
theorem Faithful.covers (faithful : Faithful σ) (s : σ) : Covers s (channels s) := by
  intro s' moves
  have channels : channels s' = channels s := by
    induction moves with
    | refl => rfl
    | request frames pts _ ih => exact (faithful.channels_request _ frames pts).trans ih
    | release frames _ ih => exact (faithful.channels_release _ frames).trans ih
  intro frames pts b granted
  rw [← channels]
  exact Nat.le_trans (Nat.mul_le_mul_right _ (Nat.min_le_left _ _))
    (faithful.whole s' frames pts b granted)

end Provider

namespace Reformat

variable {a b : Reformat}

theorem Like.symm (like : Like a b) : Like b a :=
  ⟨like.channels.symm, like.input.symm, like.output.symm, like.scratch.symm⟩

/-- Two conversions that differ in what their buffers hold ask for the same and grant as many
frames. What they hand out is the same where the samples of these frames are delivered. -/
theorem Like.convert (like : Like a b) (asked : Nat) (buffer : Buffer) :
    b.ask asked = a.ask asked ∧
    (∀ buffer' : Buffer, buffer'.frames = buffer.frames →
      (b.convert asked buffer').1.frames = (a.convert asked buffer).1.frames) ∧
    (min buffer.frames asked * a.channels ≤ buffer.samples.size →
      (b.convert asked buffer).1 = (a.convert asked buffer).1) := by
  have outline := like.scratch
  unfold Reformat.ask Reformat.convert
  rw [like.channels]
  cases held : a.scratch with
  | passThrough =>
    cases held' : b.scratch with
    | passThrough => exact ⟨rfl, fun _ same => same, fun _ => rfl⟩
    | pcm16 _ => simp [held, held', Scratch.outline] at outline
    | float _ => simp [held, held', Scratch.outline] at outline
  | pcm16 samples =>
    cases held' : b.scratch with
    | passThrough => simp [held, held', Scratch.outline] at outline
    | float _ => simp [held, held', Scratch.outline] at outline
    | pcm16 samples' =>
      have length : samples'.length = samples.length := by
        simpa [held, held', Scratch.outline] using outline.symm
      refine ⟨by simp only [length], fun _ same => by simp only [same], fun covered => ?_⟩
      rw [← Samples.length_words] at covered
      simp only [take_overlay_take length covered]
  | float samples =>
    cases held' : b.scratch with
    | passThrough => simp [held, held', Scratch.outline] at outline
    | pcm16 _ => simp [held, held', Scratch.outline] at outline
    | float samples' =>
      have length : samples'.length = samples.length := by
        simpa [held, held', Scratch.outline] using outline.symm
      refine ⟨by simp only [length], fun _ same => by simp only [same], fun covered => ?_⟩
      rw [← Samples.length_singles] at covered
      simp only [take_overlay_take length covered]

theorem Like.ask_eq (like : Like a b) (frames : Nat) : b.ask frames = a.ask frames :=
  (like.convert frames ⟨0, .float #[]⟩).1

/-- Two such conversions stay so, whatever they are granted. -/
theorem Like.present_snd (like : Like a b) (asked asked' : Nat) (answer answer' : Option Buffer) :
    Like (a.present asked answer).2 (b.present asked' answer').2 :=
  (a.present_like asked answer).trans (like.trans (b.present_like asked' answer').symm)

/-- They claim the same for grants that claim the same. -/
theorem Like.frames_present (like : Like a b) (asked : Nat) {answer answer' : Option Buffer}
    (claimed : answer'.map Buffer.frames = answer.map Buffer.frames) :
    (b.present asked answer').1.map Buffer.frames =
      (a.present asked answer).1.map Buffer.frames := by
  cases answer with
  | none =>
    cases answer' with
    | none => rfl
    | some _ => cases claimed
  | some given =>
    cases answer' with
    | none => cases claimed
    | some given' =>
      exact congrArg some ((like.convert asked given).2.1 given' (Option.some.inj claimed))

/-- They hand out the same where the samples of the claimed frames are delivered. -/
theorem Like.present_fst (like : Like a b) (asked : Nat) {answer : Option Buffer}
    (covered : ∀ given, answer = some given →
      min given.frames asked * a.channels ≤ given.samples.size) :
    (b.present asked answer).1 = (a.present asked answer).1 := by
  cases answer with
  | none => rfl
  | some given => exact congrArg some ((like.convert asked given).2.2 (covered given rfl))

/-- The conversion with `x` all over its buffer. -/
def filled (x : Float32) (stage : Reformat) : Reformat :=
  { stage with
    scratch := match stage.scratch with
      | .passThrough => .passThrough
      | .pcm16 held => .pcm16 (held.map fun _ => int16OfSingle x)
      | .float held => .float (held.map fun _ => x) }

theorem like_filled (x : Float32) (stage : Reformat) : Like stage (stage.filled x) := by
  refine ⟨rfl, rfl, rfl, ?_⟩
  unfold filled
  cases stage.scratch with
  | passThrough => rfl
  | pcm16 held => simp [Scratch.outline]
  | float held => simp [Scratch.outline]

/-- A conversion hands out the samples of all frames that it claims. -/
theorem size_present {stage : Reformat} {format : MixFormat} {size : Nat}
    (outline : stage.scratch.outline = some (format, size)) {asked : Nat}
    (fits : asked * stage.channels ≤ size) {answer : Option Buffer} {handed : Buffer}
    (present : (stage.present asked answer).1 = some handed) :
    handed.samples.size = handed.frames * stage.channels := by
  cases answer with
  | none => cases present
  | some given =>
    obtain rfl : (stage.convert asked given).1 = handed := Option.some.inj present
    have clipped : (stage.convert asked given).1 =
        (stage.convert asked ⟨min given.frames asked, given.samples⟩).1 := by
      unfold convert
      cases held : stage.scratch with
      | passThrough => rw [held] at outline; cases outline
      | pcm16 _ => simp only [Nat.min_assoc, Nat.min_self]
      | float _ => simp only [Nat.min_assoc, Nat.min_self]
    have spec := convert_spec (b := ⟨min given.frames asked, given.samples⟩) outline
      (Nat.min_le_right _ _) fits
    rw [clipped, spec.1, spec.2.1]

end Reformat

namespace Downmixing

variable {a b : Downmixing}

theorem Like.symm (like : Like a b) : Like b a :=
  ⟨like.matrix.symm, like.maxFrames.symm, like.held.symm⟩

theorem Like.inputChannels (like : Like a b) : a.inputChannels = b.inputChannels :=
  congrArg DownmixMatrix.inputChannels like.matrix

/-- The same for downmixes. -/
theorem Like.convert (like : Like a b) (asked : Nat) (buffer : Buffer) :
    b.ask asked = a.ask asked ∧
    (∀ buffer' : Buffer, buffer'.frames = buffer.frames →
      (b.convert asked buffer').1.frames = (a.convert asked buffer).1.frames) ∧
    (min buffer.frames asked * a.inputChannels ≤ buffer.samples.size →
      (b.convert asked buffer).1 = (a.convert asked buffer).1) := by
  have channels := like.inputChannels
  unfold Downmixing.ask Downmixing.convert
  refine ⟨by rw [like.maxFrames], fun _ same => by simp only [same], fun covered => ?_⟩
  rw [← Samples.length_singles] at covered
  simp only [← channels, ← like.matrix, take_overlay_take like.held.symm covered]

theorem Like.ask_eq (like : Like a b) (frames : Nat) : b.ask frames = a.ask frames :=
  (like.convert frames ⟨0, .float #[]⟩).1

theorem Like.present_snd (like : Like a b) (asked asked' : Nat) (answer answer' : Option Buffer) :
    Like (a.present asked answer).2 (b.present asked' answer').2 :=
  (a.present_like asked answer).trans (like.trans (b.present_like asked' answer').symm)

theorem Like.frames_present (like : Like a b) (asked : Nat) (answer : Option Buffer) :
    (b.present asked answer).1.map Buffer.frames =
      (a.present asked answer).1.map Buffer.frames := by
  cases answer with
  | none => rfl
  | some given => exact congrArg some ((like.convert asked given).2.1 given rfl)

theorem Like.present_fst (like : Like a b) (asked : Nat) {answer : Option Buffer}
    (covered : ∀ given, answer = some given →
      min given.frames asked * a.inputChannels ≤ given.samples.size) :
    (b.present asked answer).1 = (a.present asked answer).1 := by
  cases answer with
  | none => rfl
  | some given => exact congrArg some ((like.convert asked given).2.2 (covered given rfl))

/-- The downmix with `x` all over its buffer. -/
def filled (x : Float32) (stage : Downmixing) : Downmixing :=
  { stage with held := stage.held.map fun _ => x }

theorem like_filled (x : Float32) (stage : Downmixing) : Like stage (stage.filled x) :=
  ⟨rfl, rfl, List.length_map .. |>.symm⟩

/-- A downmix hands out the samples of all frames that it claims. -/
theorem size_present {stage : Downmixing}
    (held : stage.held.length = stage.maxFrames * stage.inputChannels)
    (pos : 0 < stage.inputChannels) {asked : Nat} (fits : asked ≤ stage.maxFrames)
    {answer : Option Buffer} {handed : Buffer}
    (present : (stage.present asked answer).1 = some handed) :
    handed.samples.size = handed.frames * maxMixChannels := by
  cases answer with
  | none => cases present
  | some given =>
    obtain rfl : (stage.convert asked given).1 = handed := Option.some.inj present
    have clipped : (stage.convert asked given).1 =
        (stage.convert asked ⟨min given.frames asked, given.samples⟩).1 := by
      unfold convert
      simp only [Nat.min_assoc, Nat.min_self]
    have spec := convert_spec held pos (b := ⟨min given.frames asked, given.samples⟩)
      (Nat.min_le_right _ _) fits
    rw [clipped, spec.1, spec.2.1]

end Downmixing

namespace Chain

variable {σ : Type} {c c' : Chain σ}

/-- Two chains around the same provider that differ in what the buffers of their stages hold at
most. -/
inductive Like : Chain σ → Chain σ → Prop
  | direct (source : σ) : Like (.direct source) (.direct source)
  | reformatted {outer outer' : Reformat} (source : σ) : outer.Like outer' →
      Like (.reformatted outer source) (.reformatted outer' source)
  | downmixed {inner inner' : Downmixing} (source : σ) : inner.Like inner' →
      Like (.downmixed inner source) (.downmixed inner' source)
  | downmixedReformatted {outer outer' : Reformat} {inner inner' : Downmixing} (source : σ) :
      outer.Like outer' → inner.Like inner' →
      Like (.downmixedReformatted outer inner source) (.downmixedReformatted outer' inner' source)

theorem Like.refl (c : Chain σ) : Like c c := by
  cases c with
  | direct s => exact .direct s
  | reformatted outer s => exact .reformatted s ⟨rfl, rfl, rfl, rfl⟩
  | downmixed inner s => exact .downmixed s ⟨rfl, rfl, rfl⟩
  | downmixedReformatted outer inner s =>
    exact .downmixedReformatted s ⟨rfl, rfl, rfl, rfl⟩ ⟨rfl, rfl, rfl⟩

theorem Like.source (like : Like c c') : c'.source = c.source := by
  cases like with
  | direct _ => rfl
  | reformatted _ _ => rfl
  | downmixed _ _ => rfl
  | downmixedReformatted _ _ _ => rfl

theorem Like.mapSource (like : Like c c') (f : σ → σ) : Like (c.mapSource f) (c'.mapSource f) := by
  cases like with
  | direct s => exact .direct (f s)
  | reformatted s outer => exact .reformatted (f s) outer
  | downmixed s inner => exact .downmixed (f s) inner
  | downmixedReformatted s outer inner => exact .downmixedReformatted (f s) outer inner

/-- The chain with `x` all over the buffers of its stages. -/
def filled (x : Float32) : Chain σ → Chain σ
  | direct source => direct source
  | reformatted outer source => reformatted (outer.filled x) source
  | downmixed inner source => downmixed (inner.filled x) source
  | downmixedReformatted outer inner source =>
    downmixedReformatted (outer.filled x) (inner.filled x) source

theorem like_filled (x : Float32) (c : Chain σ) : Like c (c.filled x) := by
  cases c with
  | direct s => exact .direct s
  | reformatted outer s => exact .reformatted s (outer.like_filled x)
  | downmixed inner s => exact .downmixed s (inner.like_filled x)
  | downmixedReformatted outer inner s =>
    exact .downmixedReformatted s (outer.like_filled x) (inner.like_filled x)

variable [Provider σ]

/-- Such chains go on alike and claim as many frames. -/
theorem Like.request (like : Like c c') (frames : Nat) (pts : Option Int) :
    Like (Provider.request c frames pts).2 (Provider.request c' frames pts).2 ∧
      (Provider.request c' frames pts).1.map Buffer.frames =
        (Provider.request c frames pts).1.map Buffer.frames := by
  cases like with
  | direct s => exact ⟨.refl _, rfl⟩
  | reformatted s like =>
    simp only [Provider.request, Chain.request, like.ask_eq]
    exact ⟨.reformatted _ (like.present_snd ..), like.frames_present _ rfl⟩
  | downmixed s like =>
    simp only [Provider.request, Chain.request, like.ask_eq]
    exact ⟨.downmixed _ (like.present_snd ..), like.frames_present ..⟩
  | downmixedReformatted s like like' =>
    simp only [Provider.request, Chain.request, like.ask_eq, like'.ask_eq]
    exact ⟨.downmixedReformatted _ (like.present_snd ..) (like'.present_snd ..),
      like.frames_present _ (like'.frames_present ..)⟩

/-- Two chains for a layout that differ in what the buffers of their stages hold at most, around a
provider that delivers the samples of the frames that it claims. -/
structure Clean (layout : ChainLayout) (mode : DownmixMode) (c c' : Chain σ) : Prop where
  like : Like c c'
  suits : Suits layout mode c
  covers : Provider.Covers c.source layout.mask.channelCount

namespace Clean

variable {layout : ChainLayout} {mode : DownmixMode}

theorem release (clean : Clean layout mode c c') (frames : Nat) :
    Clean layout mode (Provider.release c frames) (Provider.release c' frames) := by
  refine ⟨clean.like.mapSource _, clean.suits.mapSource _, ?_⟩
  rw [source_release]
  exact clean.covers.moves (.release frames .refl)

/-- Such chains answer the same, with the samples of all frames that they claim, and go on to do
so. -/
theorem request (clean : Clean layout mode c c') (pos : 0 < layout.mask.channelCount)
    (frames : Nat) (pts : Option Int) :
    Clean layout mode (Provider.request c frames pts).2 (Provider.request c' frames pts).2 ∧
      (Provider.request c' frames pts).1 = (Provider.request c frames pts).1 ∧
      ∀ b, (Provider.request c frames pts).1 = some b →
        min b.frames frames * min layout.mask.channelCount maxMixChannels ≤ b.samples.size := by
  obtain ⟨like, suits, covers⟩ := clean
  refine ⟨⟨(like.request frames pts).1, suits.request frames pts, ?_⟩, ?_⟩
  · obtain ⟨asked, source⟩ := c.source_request frames pts
    rw [source]
    exact covers.moves (.request asked pts .refl)
  have whole {b : Buffer} {channels : Nat} (size : b.samples.size = b.frames * channels) :
      min b.frames frames * channels ≤ b.samples.size := by
    rw [size]
    exact Nat.mul_le_mul_right _ (Nat.min_le_left _ _)
  cases suits with
  | direct s few same =>
    cases like
    rw [Nat.min_eq_left few]
    exact ⟨rfl, covers s .refl frames pts⟩
  | reformatted outer s few differ like' =>
    cases like with
    | reformatted _ like =>
      have channels : outer.channels = layout.mask.channelCount :=
        like'.channels.trans (Nat.max_eq_left pos)
      have outline := like'.scratch.trans (Reformat.outline_new _ differ _)
      have covered := covers s .refl (outer.ask frames) pts
      simp only [Provider.request, Chain.request, like.ask_eq, Nat.min_eq_left few]
      simp only [← channels] at covered ⊢
      refine ⟨like.present_fst _ covered, ?_⟩
      intro b handed
      exact whole (Reformat.size_present outline (Reformat.ask_spec outline frames).2 handed)
  | downmixed inner s many float like' =>
    cases like with
    | downmixed _ like =>
      obtain ⟨channels, held⟩ := like'.sized
      have covered := covers s .refl (inner.ask frames) pts
      simp only [Provider.request, Chain.request, like.ask_eq, Nat.min_eq_right (Nat.le_of_lt many)]
      simp only [← channels] at covered
      refine ⟨like.present_fst _ covered, ?_⟩
      intro b handed
      exact whole (Downmixing.size_present held (channels ▸ pos) (Nat.min_le_right _ _) handed)
  | downmixedReformatted outer inner s many pcm16 outerLike innerLike =>
    cases like with
    | downmixedReformatted _ like like' =>
      have differ : SampleFormat.float ≠ MixFormat.pcm16.toSample := by decide
      have outline := outerLike.scratch.trans (Reformat.outline_new _ differ _)
      have stereo : outer.channels = maxMixChannels := outerLike.channels
      obtain ⟨channels, held⟩ := innerLike.sized
      have covered := covers s .refl (inner.ask (outer.ask frames)) pts
      simp only [Provider.request, Chain.request, like.ask_eq, like'.ask_eq,
        Nat.min_eq_right (Nat.le_of_lt many)]
      simp only [← channels] at covered
      rw [like'.present_fst _ covered, ← stereo]
      refine ⟨like.present_fst _ ?_, ?_⟩
      · intro mixed downmixed
        rw [stereo, Downmixing.size_present held (channels ▸ pos) (Nat.min_le_right _ _) downmixed]
        exact Nat.mul_le_mul_right _ (Nat.min_le_left _ _)
      · intro b handed
        exact whole (Reformat.size_present outline (Reformat.ask_spec outline frames).2 handed)

end Clean

/-- A reader to whom only the claims matter is given the same by chains that differ in what the
buffers of their stages hold. -/
theorem Like.pull {α : Type} (like : Like c c') {reader : Provider.Reader α}
    (claims : ∀ left b b', b'.frames = b.frames → reader left b' = reader left b)
    (stamp : Nat → Option Int) (frames : Nat) :
    (Provider.pull reader stamp frames c').1 = (Provider.pull reader stamp frames c).1 ∧
      Like (Provider.pull reader stamp frames c).2 (Provider.pull reader stamp frames c').2 := by
  refine Provider.pullFrom_rel ?_ (fun _ _ like _ => like.mapSource _) stamp frames frames 0 like
  intro s s' like left pts
  obtain ⟨next, claimed⟩ := like.request left pts
  refine ⟨next, ?_⟩
  generalize (Provider.request s left pts).1 = answer, (Provider.request s' left pts).1 = answer'
    at claimed
  cases answer with
  | none =>
    cases answer' with
    | none => rfl
    | some _ => cases claimed
  | some b =>
    cases answer' with
    | none => cases claimed
    | some b' => exact congrArg some (claims left b b' (Option.some.inj claimed))

/-- Any reader is given the same by chains around a provider that delivers what it claims. -/
theorem Clean.pull {α : Type} {layout : ChainLayout} {mode : DownmixMode}
    (clean : Clean layout mode c c') (pos : 0 < layout.mask.channelCount)
    (reader : Provider.Reader α) (stamp : Nat → Option Int) (frames : Nat) :
    (Provider.pull reader stamp frames c').1 = (Provider.pull reader stamp frames c).1 ∧
      Clean layout mode (Provider.pull reader stamp frames c).2
        (Provider.pull reader stamp frames c').2 := by
  refine Provider.pullFrom_rel ?_ (fun _ _ clean frames => clean.release frames) stamp frames
    frames 0 clean
  intro s s' clean left pts
  obtain ⟨next, same, -⟩ := clean.request pos left pts
  exact ⟨next, by rw [same]⟩

end Chain

end Mixdown
