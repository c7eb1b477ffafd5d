import Mixdown.Proofs.Provider.Leftovers
import Mixdown.Proofs.Resampler.Interpolation

/-!
# What is left over in a resampler

The staging buffer of a resampler still holds old samples behind the staged frames. Frames are
produced from staged frames only, so these samples are never heard, as long as the provider
delivers the samples of the frames that it claims.
-/

namespace Mixdown

namespace Resampler

/-- A frame can be interpolated after the staging buffer was filled for it. -/
theorem fillFor_ready {σ : Type} [Provider σ] (pts : Option Int) (fuel : Nat) (r : Resampler)
    (s : σ) (filled : (fillFor pts fuel r s).1 = true) :
    (fillFor pts fuel r s).2.1.ready = true := by
  induction fuel generalizing r s with
  | zero => exact filled
  | succ fuel ih =>
    unfold fillFor at filled ⊢
    split at filled
    · rename_i ready
      rw [if_pos ready]
      exact ready
    · rename_i waiting
      rw [if_neg waiting]
      generalize r.fill s pts = result at filled ⊢
      obtain ⟨granted, r', s'⟩ := result
      cases granted with
      | true => exact ih r' s' filled
      | false => cases filled

/-- Two resamplers that differ in what their staging buffers hold behind the staged frames at
most. -/
structure Like (r r' : Resampler) : Prop where
  size : r'.staging.size = r.staging.size
  staged : r'.staging.toList.take (r.staged * r.channels) =
    r.staging.toList.take (r.staged * r.channels)
  rest : r' = { r with staging := r'.staging }

namespace Like

variable {r r' : Resampler}

theorem refl (r : Resampler) : Like r r := ⟨rfl, rfl, rfl⟩

theorem parts (like : Like r r') : ∃ staging : Array Float32, staging.size = r.staging.size ∧
    staging.toList.take (r.staged * r.channels) =
      r.staging.toList.take (r.staged * r.channels) ∧ r' = { r with staging } :=
  ⟨r'.staging, like.size, like.staged, like.rest⟩

/-- Nothing is left over in a buffer that is full. -/
theorem eq_of_full (like : Like r r') (full : r.staging.size ≤ r.staged * r.channels) :
    r' = r := by
  obtain ⟨staging, size, staged, rfl⟩ := like.parts
  rw [List.take_of_length_le (by rw [Array.length_toList, size]; exact full),
    List.take_of_length_le (by rw [Array.length_toList]; exact full)] at staged
  rw [Array.toList_inj.mp staged]

theorem setInputRate (like : Like r r') (rate : UInt32) :
    Like (r.setInputRate rate) (r'.setInputRate rate) := by
  obtain ⟨staging, size, staged, rfl⟩ := like.parts
  exact ⟨size, staged, rfl⟩

theorem step (like : Like r r') : Like r.step r'.step := by
  obtain ⟨staging, size, staged, rfl⟩ := like.parts
  exact ⟨size, staged, rfl⟩

/-- Two buffers of one size stay so when the same is copied to their start, and are alike there. -/
theorem overlaid {stale stale' : Array Float32} (size : stale'.size = stale.size)
    {fresh : List Float32} {n : Nat} (inside : n ≤ fresh.length) :
    (overlay fresh stale'.toList).toArray.size = (overlay fresh stale.toList).toArray.size ∧
      (overlay fresh stale'.toList).toArray.toList.take n =
        (overlay fresh stale.toList).toArray.toList.take n := by
  refine ⟨by simp [size], take_overlay ?_ inside⟩
  rw [Array.length_toList, Array.length_toList, size]

theorem reset (like : Like r r') : Like r.reset r'.reset := by
  obtain ⟨staging, size, staged, rfl⟩ := like.parts
  have inside : r.quality.history * r.channels ≤
      (List.replicate (r.quality.history * r.channels) (0 : Float32)).length :=
    Nat.le_of_eq List.length_replicate.symm
  obtain ⟨size', staged'⟩ := overlaid size inside
  exact ⟨size', staged', rfl⟩

theorem compact (like : Like r r') : Like r.compact r'.compact := by
  by_cases full : r.staging.size ≤ r.staged * r.channels
  · rw [like.eq_of_full full]
    exact refl _
  · obtain ⟨staging, size, staged, rfl⟩ := like.parts
    have inside : r.staged * r.channels ≤ r.staging.toList.length := by
      rw [Array.length_toList]
      omega
    -- only staged samples are kept
    have kept (dropped : Nat) : staging.toList.extract (dropped * r.channels)
        (r.staged * r.channels) =
        r.staging.toList.extract (dropped * r.channels) (r.staged * r.channels) := by
      rw [List.extract_eq_take_drop, List.extract_eq_take_drop, ← List.drop_take,
        ← List.drop_take, staged]
    have length (dropped : Nat) : (r.staged - dropped) * r.channels ≤
        (r.staging.toList.extract (dropped * r.channels) (r.staged * r.channels)).length := by
      apply Nat.le_of_eq
      rw [List.extract_eq_take_drop, ← List.drop_take, List.length_drop, List.length_take,
        Nat.min_eq_left inside, Nat.sub_mul]
    obtain ⟨size', staged'⟩ := overlaid size
      (length (min (r.index - r.quality.history) r.staged))
    unfold Resampler.compact
    simp only [kept]
    exact ⟨size', staged', rfl⟩

/-- Two resamplers go on alike with a buffer that has the samples of the frames that are taken from
it. -/
theorem stage (like : Like r r') {buffer : Buffer}
    (covered : min buffer.frames r.room * r.channels ≤ buffer.samples.size) :
    (r'.stage buffer).1 = (r.stage buffer).1 ∧ Like (r.stage buffer).2 (r'.stage buffer).2 := by
  by_cases full : r.staging.size ≤ r.staged * r.channels
  · rw [like.eq_of_full full]
    exact ⟨rfl, refl _⟩
  · obtain ⟨staging, size, staged, rfl⟩ := like.parts
    refine ⟨rfl, ?_, ?_, rfl⟩
    · simp [Resampler.stage, Resampler.room, size]
    · have inside : r.staged * r.channels ≤ r.staging.toList.length := by
        rw [Array.length_toList]
        omega
      have behind : (staging.toList.drop (r.staged * r.channels)).length =
          (r.staging.toList.drop (r.staged * r.channels)).length := by
        simp [size]
      have start : (r.staging.toList.take (r.staged * r.channels)).length =
          r.staged * r.channels := by
        rw [List.length_take, Nat.min_eq_left inside]
      rw [← Samples.length_singles] at covered
      simp only [Resampler.stage, Nat.add_mul]
      rw [staged, List.take_append, List.take_append, start, Nat.add_sub_cancel_left]
      congr 1
      exact take_overlay_take behind covered

/-- A staged sample is the same in both. -/
theorem sample (like : Like r r') {channel frame : Nat} (inside : frame < r.staged)
    (known : channel < r.channels) : r'.sample channel frame = r.sample channel frame := by
  obtain ⟨staging, size, staged, rfl⟩ := like.parts
  have below : frame * r.channels + channel < r.staged * r.channels := by
    have next : (frame + 1) * r.channels ≤ r.staged * r.channels := Nat.mul_le_mul_right _ inside
    rw [Nat.add_mul, Nat.one_mul] at next
    omega
  have there := congrArg (fun samples => samples[frame * r.channels + channel]?) staged
  simp only [List.getElem?_take, below, if_true, Array.getElem?_toList] at there
  simp only [Resampler.sample, Array.getD_eq_getD_getElem?, there]

/-- The frame at the position is the same in both, where it can be interpolated. -/
theorem frame (like : Like r r') (ready : r.ready = true) : r'.frame = r.frame := by
  have ahead : r.index + r.quality.lookahead < r.staged := by simpa [Resampler.ready] using ready
  have rest := like.rest
  unfold Resampler.frame
  rw [show r'.channels = r.channels by rw [rest], show r'.quality = r.quality by rw [rest],
    show r'.index = r.index by rw [rest], show r'.fraction = r.fraction by rw [rest]]
  apply List.map_congr_left
  intro channel listed
  refine Interpolation.value_congr fun i near => ?_
  exact like.sample (Nat.lt_of_le_of_lt near ahead) (List.mem_range.mp listed)

variable {σ : Type} [Provider σ] {layout : ChainLayout} {mode : DownmixMode} {c c' : Chain σ}

theorem fill (like : Like r r') (clean : Chain.Clean layout mode c c')
    (pos : 0 < layout.mask.channelCount)
    (channels : r.channels = min layout.mask.channelCount maxMixChannels) (pts : Option Int) :
    (r'.fill c' pts).1 = (r.fill c pts).1 ∧ Like (r.fill c pts).2.1 (r'.fill c' pts).2.1 ∧
      Chain.Clean layout mode (r.fill c pts).2.2 (r'.fill c' pts).2.2 := by
  have compacted := like.compact
  have room : r'.compact.room = r.compact.room := by
    rw [compacted.rest]
    rfl
  obtain ⟨next, same, covered⟩ := clean.request pos r.compact.room pts
  rw [← channels] at covered
  unfold Resampler.fill
  simp only [room]
  generalize Provider.request c r.compact.room pts = answer,
    Provider.request c' r.compact.room pts = answer' at next same covered ⊢
  obtain ⟨buffer, d⟩ := answer
  obtain ⟨buffer', d'⟩ := answer'
  obtain rfl : buffer' = buffer := same
  cases buffer' with
  | none => exact ⟨rfl, compacted, next⟩
  | some b =>
    obtain ⟨granted, staged⟩ := compacted.stage (covered b rfl)
    simp only [granted]
    exact ⟨trivial, staged, next.release _⟩

theorem fillFor (like : Like r r') (clean : Chain.Clean layout mode c c')
    (pos : 0 < layout.mask.channelCount)
    (channels : r.channels = min layout.mask.channelCount maxMixChannels) (pts : Option Int)
    (fuel : Nat) :
    (Resampler.fillFor pts fuel r' c').1 = (Resampler.fillFor pts fuel r c).1 ∧
      Like (Resampler.fillFor pts fuel r c).2.1 (Resampler.fillFor pts fuel r' c').2.1 ∧
      Chain.Clean layout mode (Resampler.fillFor pts fuel r c).2.2
        (Resampler.fillFor pts fuel r' c').2.2 := by
  induction fuel generalizing r r' c c' with
  | zero =>
    refine ⟨?_, like, clean⟩
    rw [like.rest]
    rfl
  | succ fuel ih =>
    have ready : r'.ready = r.ready := by
      rw [like.rest]
      rfl
    unfold Resampler.fillFor
    rw [ready]
    split
    · exact ⟨rfl, like, clean⟩
    · have settings := r.sameSettings_fill c pts
      obtain ⟨granted, filled, next⟩ := like.fill clean pos channels pts
      generalize r.fill c pts = result, r'.fill c' pts = result' at settings granted filled next ⊢
      obtain ⟨more, q, d⟩ := result
      obtain ⟨more', q', d'⟩ := result'
      obtain rfl : more' = more := granted
      cases more' with
      | true => exact ih filled next (settings.channels.trans channels)
      | false => exact ⟨rfl, filled, next⟩

/-- The same frames are produced from both. -/
theorem produce (like : Like r r') (clean : Chain.Clean layout mode c c')
    (pos : 0 < layout.mask.channelCount)
    (channels : r.channels = min layout.mask.channelCount maxMixChannels) (pts : Option Int)
    (left done : Nat) :
    (Resampler.produce pts left done r' c').1 = (Resampler.produce pts left done r c).1 ∧
      Like (Resampler.produce pts left done r c).2.1 (Resampler.produce pts left done r' c').2.1 ∧
      Chain.Clean layout mode (Resampler.produce pts left done r c).2.2
        (Resampler.produce pts left done r' c').2.2 := by
  induction left generalizing done r r' c c' with
  | zero => exact ⟨rfl, like, clean⟩
  | succ left ih =>
    have rest := like.rest
    unfold Resampler.produce
    simp only [show r'.outputRate = r.outputRate by rw [rest], show r'.index = r.index by rw [rest],
      show r'.quality = r.quality by rw [rest], show r'.staged = r.staged by rw [rest]]
    have settings := sameSettings_fillFor (stampAfter pts r.outputRate done)
      (r.index + r.quality.lookahead + 1 - r.staged) r c
    have enough := fillFor_ready (stampAfter pts r.outputRate done)
      (r.index + r.quality.lookahead + 1 - r.staged) r c
    obtain ⟨ready, filled, next⟩ := like.fillFor clean pos channels
      (stampAfter pts r.outputRate done) (r.index + r.quality.lookahead + 1 - r.staged)
    generalize Resampler.fillFor (stampAfter pts r.outputRate done)
      (r.index + r.quality.lookahead + 1 - r.staged) r c = result,
      Resampler.fillFor (stampAfter pts r.outputRate done)
      (r.index + r.quality.lookahead + 1 - r.staged) r' c' = result'
      at settings enough ready filled next ⊢
    obtain ⟨can, q, d⟩ := result
    obtain ⟨can', q', d'⟩ := result'
    obtain rfl : can' = can := ready
    cases can' with
    | false => exact ⟨rfl, filled, next⟩
    | true =>
      have here := filled.frame (enough rfl)
      obtain ⟨more, after, onward⟩ := ih filled.step next (settings.channels.trans channels)
        (done + 1)
      simp only [here, more]
      exact ⟨trivial, after, onward⟩

theorem resample (like : Like r r') (clean : Chain.Clean layout mode c c')
    (pos : 0 < layout.mask.channelCount)
    (channels : r.channels = min layout.mask.channelCount maxMixChannels) (frames room : Nat)
    (pts : Option Int) :
    (r'.resample frames room c' pts).1 = (r.resample frames room c pts).1 ∧
      Like (r.resample frames room c pts).2.1 (r'.resample frames room c' pts).2.1 ∧
      Chain.Clean layout mode (r.resample frames room c pts).2.2
        (r'.resample frames room c' pts).2.2 := by
  unfold Resampler.resample
  rw [show r'.channels = r.channels by rw [like.rest]]
  exact like.produce clean pos channels pts _ 0

end Like

/-- The resampler with `x` all over its staging buffer behind the staged frames. -/
def filled (x : Float32) (r : Resampler) : Resampler :=
  let staged := r.staging.toList.take (r.staged * r.channels)
  { r with staging := (staged ++ List.replicate (r.staging.size - staged.length) x).toArray }

theorem like_filled (x : Float32) (r : Resampler) : Like r (r.filled x) := by
  have length : (r.staging.toList.take (r.staged * r.channels)).length =
      min (r.staged * r.channels) r.staging.size := by
    rw [List.length_take, Array.length_toList]
  refine ⟨?_, ?_, rfl⟩
  · simp only [filled, List.size_toArray, List.length_append, List.length_replicate]
    omega
  · simp only [filled]
    rw [List.take_append, List.take_take, Nat.min_self, List.take_replicate,
      show min _ _ = 0 by omega, List.replicate_zero, List.append_nil]

end Resampler

end Mixdown
