import Mixdown.Proofs.Provider.Honest
import Mixdown.Proofs.Provider.Tape

/-!
# What the staging buffer of a resampler holds

The staging buffer is a window on the stream that a resampler reads: the silent history that it
starts with, and behind it everything that was staged. Every operation keeps this, whatever is
dropped from the start of the window and appended at its end.
-/

namespace Mixdown

theorem phaseUnit_pos : 0 < phaseUnit := by decide

namespace Resampler

/-- Two stages in the life of one resampler at one rate. -/
structure SameSettings (r r' : Resampler) : Prop where
  quality : r'.quality = r.quality
  channels : r'.channels = r.channels
  inputRate : r'.inputRate = r.inputRate
  outputRate : r'.outputRate = r.outputRate
  increment : r'.increment = r.increment
  capacity : r'.capacity = r.capacity

theorem SameSettings.refl (r : Resampler) : SameSettings r r := ⟨rfl, rfl, rfl, rfl, rfl, rfl⟩

theorem SameSettings.trans {r r' r'' : Resampler} (h : SameSettings r r')
    (h' : SameSettings r' r'') : SameSettings r r'' :=
  ⟨h'.quality.trans h.quality, h'.channels.trans h.channels, h'.inputRate.trans h.inputRate,
    h'.outputRate.trans h.outputRate, h'.increment.trans h.increment,
    h'.capacity.trans h.capacity⟩

theorem sameSettings_compact (r : Resampler) : SameSettings r r.compact :=
  ⟨rfl, rfl, rfl, rfl, rfl, rfl⟩

theorem sameSettings_stage (r : Resampler) (b : Buffer) : SameSettings r (r.stage b).2 :=
  ⟨rfl, rfl, rfl, rfl, rfl, rfl⟩

theorem sameSettings_step (r : Resampler) : SameSettings r r.step := ⟨rfl, rfl, rfl, rfl, rfl, rfl⟩

section Settings

variable {σ : Type} [Provider σ]

theorem sameSettings_fill (r : Resampler) (s : σ) (pts : Option Int) :
    SameSettings r (r.fill s pts).2.1 := by
  unfold fill
  simp only
  rcases Provider.request s r.compact.room pts with ⟨answer, s'⟩
  cases answer with
  | none => exact sameSettings_compact r
  | some b => exact (sameSettings_compact r).trans (sameSettings_stage r.compact b)

theorem sameSettings_fillFor (pts : Option Int) (fuel : Nat) (r : Resampler) (s : σ) :
    SameSettings r (fillFor pts fuel r s).2.1 := by
  induction fuel generalizing r s with
  | zero => exact .refl r
  | succ fuel ih =>
    unfold fillFor
    split
    · exact .refl r
    · have filled := sameSettings_fill r s pts
      rcases result : r.fill s pts with ⟨granted, r', s'⟩
      rw [result] at filled
      cases granted with
      | true => exact filled.trans (ih r' s')
      | false => exact filled

theorem sameSettings_produce (pts : Option Int) (left done : Nat) (r : Resampler) (s : σ) :
    SameSettings r (produce pts left done r s).2.1 := by
  induction left generalizing done r s with
  | zero => exact .refl r
  | succ left ih =>
    unfold produce
    simp only
    have filled := sameSettings_fillFor (stampAfter pts r.outputRate done)
      (r.index + r.quality.lookahead + 1 - r.staged) r s
    rcases result : fillFor (stampAfter pts r.outputRate done)
      (r.index + r.quality.lookahead + 1 - r.staged) r s with ⟨ready, r', s'⟩
    rw [result] at filled
    cases ready with
    | true => exact (filled.trans (sameSettings_step r')).trans (ih _ r'.step s')
    | false => exact filled

theorem sameSettings_resample (r : Resampler) (frames room : Nat) (s : σ) (pts : Option Int) :
    SameSettings r (r.resample frames room s pts).2.1 :=
  sameSettings_produce pts _ 0 r s

end Settings

/-- The samples that a resampler reads: its silent history, and then its input. -/
def stream (r : Resampler) (input : List Float32) : List Float32 :=
  List.replicate (r.quality.history * r.channels) 0 ++ input

/-- The staging buffer holds the stream from frame number `dropped` on, and the position lies
`position` units behind the start of the input. -/
structure Window (r : Resampler) (input : List Float32) (position dropped : Nat) : Prop where
  channels_pos : 0 < r.channels
  roomy : r.quality.history + r.quality.lookahead < r.capacity
  size : r.staging.size = r.capacity * r.channels
  increment : r.increment = phaseIncrement r.inputRate r.outputRate
  fraction : r.fraction = position % phaseUnit
  history_le : r.quality.history ≤ r.index
  staged_le : r.staged ≤ r.capacity
  index : dropped + r.index = r.quality.history + position / phaseUnit
  length : (r.stream input).length = (dropped + r.staged) * r.channels
  held : r.staging.toList.take (r.staged * r.channels) =
    (r.stream input).drop (dropped * r.channels)

/-- The resampler reads `input`, of which the position has passed `position` units. -/
def Reads (r : Resampler) (input : List Float32) (position : Nat) : Prop :=
  ∃ dropped, r.Window input position dropped

theorem overlay_append {α : Type} (fresh stale : List α) (h : fresh.length ≤ stale.length) :
    overlay fresh stale = fresh ++ stale.drop fresh.length := by
  rw [overlay, List.take_of_length_le h]

theorem reads_new (quality : Interpolation) (channels : Nat) (inputRate outputRate : UInt32)
    (maxFrames : Nat) : (new quality channels inputRate outputRate maxFrames).Reads [] 0 := by
  refine ⟨0, ?_⟩
  have pos : 0 < max channels 1 := by omega
  have roomy : quality.history + quality.lookahead <
      max maxFrames 1 * maxRateRatio + quality.history + quality.lookahead + 1 := by omega
  constructor
  · exact pos
  · exact roomy
  · simp [new]
  · rfl
  · simp [new]
  · exact Nat.le_refl _
  · show quality.history ≤ _
    simp only [new]
    omega
  · simp [new]
  · simp [new, stream]
  · simp only [new, stream, Array.toList_replicate, List.take_replicate, Nat.zero_mul,
      List.drop_zero, List.append_nil]
    congr 1
    exact Nat.min_eq_left (Nat.mul_le_mul_right _ (by omega))

theorem Reads.setInputRate {r : Resampler} {input : List Float32} {position : Nat}
    (h : r.Reads input position) (rate : UInt32) : (r.setInputRate rate).Reads input position := by
  obtain ⟨dropped, w⟩ := h
  exact ⟨dropped, { w with increment := rfl }⟩

theorem Reads.reset {r : Resampler} {input : List Float32} {position : Nat}
    (h : r.Reads input position) : r.reset.Reads [] 0 := by
  obtain ⟨_, w⟩ := h
  have fits : r.quality.history * r.channels ≤ r.staging.toList.length := by
    rw [Array.length_toList, w.size]
    exact Nat.mul_le_mul_right _ (by have := w.roomy; omega)
  refine ⟨0, ?_⟩
  constructor
  · exact w.channels_pos
  · exact w.roomy
  · simp only [Resampler.reset, List.size_toArray, length_overlay, Array.length_toList, w.size]
  · exact w.increment
  · simp [Resampler.reset]
  · exact Nat.le_refl _
  · simp only [Resampler.reset]
    have := w.roomy
    omega
  · simp [Resampler.reset]
  · simp [Resampler.reset, stream]
  · simp only [Resampler.reset, stream, Nat.zero_mul, List.drop_zero, List.append_nil]
    rw [overlay_append _ _ (by simpa using fits), List.take_left' (by simp)]

namespace Window

variable {r : Resampler} {input : List Float32} {position dropped : Nat}

/-- Dropping frames from the start of the staging buffer moves the window on. -/
theorem compact (w : r.Window input position dropped) :
    r.compact.Window input position (dropped + min (r.index - r.quality.history) r.staged) := by
  have history_le := w.history_le
  have staged_le := w.staged_le
  have index := w.index
  have held_le : r.staged * r.channels ≤ r.staging.toList.length := by
    rw [Array.length_toList, w.size]
    exact Nat.mul_le_mul_right _ staged_le
  generalize gone : min (r.index - r.quality.history) r.staged = count
  have kept_eq : r.staging.toList.extract (count * r.channels) (r.staged * r.channels) =
      (r.stream input).drop ((dropped + count) * r.channels) := by
    rw [List.extract_eq_take_drop, ← List.drop_take, w.held, List.drop_drop, Nat.add_mul]
  have kept_length : (r.staging.toList.extract (count * r.channels)
      (r.staged * r.channels)).length = (r.staged - count) * r.channels := by
    rw [List.extract_eq_take_drop, ← List.drop_take, List.length_drop, List.length_take,
      Nat.min_eq_left held_le, Nat.sub_mul]
  constructor
  · exact w.channels_pos
  · exact w.roomy
  · simp only [Resampler.compact, List.size_toArray, length_overlay, Array.length_toList, w.size]
  · exact w.increment
  · exact w.fraction
  · simp only [Resampler.compact, gone]
    omega
  · simp only [Resampler.compact, gone]
    omega
  · simp only [Resampler.compact, gone]
    omega
  · simp only [Resampler.compact, gone]
    have whole := w.length
    simp only [stream] at whole ⊢
    rw [whole]
    congr 1
    omega
  · simp only [Resampler.compact, gone]
    have fits : (r.staged - count) * r.channels ≤ r.staging.toList.length :=
      Nat.le_trans (Nat.mul_le_mul_right _ (Nat.sub_le _ _)) held_le
    rw [overlay_append _ _ (by rw [kept_length]; exact fits), List.take_left' kept_length]
    exact kept_eq

/-- Staging the frames of a buffer appends them to what is read. -/
theorem stage (w : r.Window input position dropped) (b : Buffer)
    (whole : b.frames * r.channels ≤ b.samples.size) :
    (r.stage b).2.Window (input ++ b.samples.singles.take ((r.stage b).1 * r.channels)) position
      dropped := by
  have staged_le := w.staged_le
  obtain ⟨granted, granted_eq⟩ : ∃ granted, granted = min b.frames r.room := ⟨_, rfl⟩
  have room_eq : r.room = r.capacity - r.staged := rfl
  have granted_le : granted ≤ b.frames := by omega
  have fits : r.staged + granted ≤ r.capacity := by omega
  have fresh_length : (b.samples.singles.take (granted * r.channels)).length =
      granted * r.channels := by
    rw [List.length_take, Samples.length_singles]
    exact Nat.min_eq_left (Nat.le_trans (Nat.mul_le_mul_right _ granted_le) whole)
  have held_length : r.staging.toList.length = r.capacity * r.channels := by
    rw [Array.length_toList, w.size]
  have start_le : r.staged * r.channels ≤ r.capacity * r.channels :=
    Nat.mul_le_mul_right _ staged_le
  have end_le : (r.staged + granted) * r.channels ≤ r.capacity * r.channels :=
    Nat.mul_le_mul_right _ fits
  have end_eq : (r.staged + granted) * r.channels =
      r.staged * r.channels + granted * r.channels := Nat.add_mul _ _ _
  have stream_eq : ∀ fresh, (r.stage b).2.stream (input ++ fresh) = r.stream input ++ fresh :=
    fun fresh => (List.append_assoc _ _ _).symm
  constructor
  · exact w.channels_pos
  · exact w.roomy
  · simp only [Resampler.stage, List.size_toArray, List.length_append, length_overlay,
      List.length_drop, List.length_take, held_length]
    omega
  · exact w.increment
  · exact w.fraction
  · exact w.history_le
  · simp only [Resampler.stage, ← granted_eq]
    exact fits
  · exact w.index
  · rw [stream_eq, List.length_append, w.length]
    simp only [Resampler.stage, ← granted_eq]
    rw [fresh_length, ← Nat.add_mul, Nat.add_assoc]
  · have dropped_le : dropped * r.channels ≤ (r.stream input).length := by
      rw [w.length]
      exact Nat.mul_le_mul_right _ (Nat.le_add_right _ _)
    rw [stream_eq, (sameSettings_stage r b).channels, List.drop_append_of_le_length dropped_le,
      ← w.held]
    simp only [Resampler.stage, ← granted_eq]
    rw [overlay_append _ _ (by rw [fresh_length, List.length_drop, held_length]; omega),
      ← List.append_assoc]
    refine List.take_left' ?_
    rw [List.length_append, fresh_length, List.length_take, held_length, end_eq]
    omega

/-- Producing a frame moves the position on by the step. -/
theorem step (w : r.Window input position dropped) :
    r.step.Window input (position + r.increment) dropped := by
  have pos := phaseUnit_pos
  have split : position + r.increment =
      r.fraction + r.increment + phaseUnit * (position / phaseUnit) := by
    rw [w.fraction]
    have := Nat.div_add_mod position phaseUnit
    omega
  constructor
  · exact w.channels_pos
  · exact w.roomy
  · exact w.size
  · exact w.increment
  · simp only [Resampler.step]
    rw [split, Nat.add_mul_mod_self_left]
  · exact Nat.le_trans w.history_le (Nat.le_add_right _ _)
  · exact w.staged_le
  · simp only [Resampler.step]
    rw [split, Nat.add_mul_div_left _ _ pos]
    have := w.index
    omega
  · exact w.length
  · exact w.held

end Window

end Resampler

end Mixdown
