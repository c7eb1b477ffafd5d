import Mixdown.Proofs.Resampler.Staging

/-!
# A resampler interpolates its input

The frames that a resampler produces are the values of the interpolation formula on the stream
of the frames that it took, at positions that are sums of the steps in force. How the input came
in pieces, how the output was asked for in blocks and where the provider stalled does not show.
-/

namespace Mixdown

/-- One channel of interleaved samples, by frame. -/
def channelOf (channels : Nat) (samples : List Float32) (channel frame : Nat) : Float32 :=
  samples.getD (frame * channels + channel) 0

namespace Interpolation

/-- The value of the interpolation formula at `position`, in units of `2 ^ -32` frames from the
first frame of one channel `x`: on the line through the two frames around the position, or on the
Catmull-Rom curve through the four, in the coefficients of its powers of `t`. A silent frame lies
before the first. -/
def reference (quality : Interpolation) (x : Nat → Float32) (position : Nat) : Float32 :=
  let i := position / phaseUnit
  let t := Single.nearest (position % phaseUnit : Nat) (-32)
  match quality with
  | linear => x i + (x (i + 1) - x i) * t
  | cubic =>
    let before := if i = 0 then 0 else x (i - 1)
    let cube := -0.5 * before + 1.5 * x i - 1.5 * x (i + 1) + 0.5 * x (i + 2)
    let square := before - 2.5 * x i + 2 * x (i + 1) - 0.5 * x (i + 2)
    let slope := -0.5 * before + 0.5 * x (i + 1)
    ((cube * t + square) * t + slope) * t + x i

/-- The frame at `position` of interleaved input, channel by channel. -/
def frameAt (quality : Interpolation) (channels : Nat) (input : List Float32) (position : Nat) :
    List Float32 :=
  (List.range channels).map fun channel =>
    quality.reference (channelOf channels input channel) position

/-- The input holds every frame that the interpolation at `position` needs. -/
def Reached (quality : Interpolation) (channels : Nat) (input : List Float32) (position : Nat) :
    Prop :=
  position / phaseUnit + quality.lookahead < input.length / channels

theorem reference_congr {quality : Interpolation} {x y : Nat → Float32} {position : Nat}
    (h : ∀ i ≤ position / phaseUnit + quality.lookahead, x i = y i) :
    quality.reference x position = quality.reference y position := by
  cases quality with
  | linear =>
    simp only [lookahead] at h
    simp only [reference, h _ (Nat.le_add_right _ _), h _ (Nat.le_refl _)]
  | cubic =>
    simp only [lookahead] at h
    have behind := h (position / phaseUnit - 1) (Nat.le_trans (Nat.sub_le _ _) (by omega))
    simp only [reference, behind, h _ (Nat.le_add_right _ _),
      h (position / phaseUnit + 1) (by omega), h _ (Nat.le_refl _)]

/-- Frames that lie further ahead do not change a value. -/
theorem value_congr {quality : Interpolation} {x y : Nat → Float32} {index : Nat} {t : Float32}
    (same : ∀ i ≤ index + quality.lookahead, x i = y i) :
    quality.value x index t = quality.value y index t := by
  cases quality with
  | linear =>
    simp only [lookahead] at same
    simp only [value, same _ (Nat.le_add_right _ _), same _ (Nat.le_refl _)]
  | cubic =>
    simp only [lookahead] at same
    have behind := same (index - 1) (by omega)
    simp only [value, behind, same _ (Nat.le_add_right _ _), same (index + 1) (by omega),
      same _ (Nat.le_refl _)]

theorem channelOf_append {channels channel frame : Nat} {input : List Float32}
    (h : frame < input.length / channels) (lt : channel < channels) (more : List Float32) :
    channelOf channels (input ++ more) channel frame = channelOf channels input channel frame := by
  have whole : (frame + 1) * channels ≤ input.length :=
    Nat.le_trans (Nat.mul_le_mul_right _ h) (Nat.div_mul_le_self _ _)
  have inside : frame * channels + channel < input.length := by
    rw [Nat.add_mul] at whole
    omega
  simp only [channelOf, List.getD_eq_getElem?_getD, List.getElem?_append_left inside]

/-- Input that comes later does not change a frame. -/
theorem frameAt_append {quality : Interpolation} {channels : Nat} {input : List Float32}
    {position : Nat} (h : quality.Reached channels input position) (more : List Float32) :
    quality.frameAt channels (input ++ more) position =
      quality.frameAt channels input position := by
  unfold frameAt
  apply List.map_congr_left
  intro channel member
  apply reference_congr
  intro i le
  exact channelOf_append (Nat.lt_of_le_of_lt le h) (List.mem_range.mp member) more

theorem Reached.append {quality : Interpolation} {channels : Nat} {input : List Float32}
    {position : Nat} (h : quality.Reached channels input position) (more : List Float32) :
    quality.Reached channels (input ++ more) position := by
  unfold Reached at h ⊢
  rw [List.length_append]
  exact Nat.lt_of_lt_of_le h (Nat.div_le_div_right (Nat.le_add_right _ _))

end Interpolation

namespace Resampler

namespace Window

variable {r : Resampler} {input : List Float32} {position dropped : Nat}

/-- The frames of the input, counted against the staging buffer. -/
theorem frames_eq (w : r.Window input position dropped) :
    input.length / r.channels + r.quality.history = dropped + r.staged := by
  have length := w.length
  rw [stream, List.length_append, List.length_replicate] at length
  have le : r.quality.history ≤ dropped + r.staged :=
    Nat.le_of_mul_le_mul_right (by omega) w.channels_pos
  have input_length : input.length = (dropped + r.staged - r.quality.history) * r.channels := by
    rw [Nat.sub_mul]
    omega
  rw [input_length, Nat.mul_div_cancel _ w.channels_pos]
  omega

theorem ready_iff (w : r.Window input position dropped) :
    r.ready = true ↔ r.quality.Reached r.channels input position := by
  have frames := w.frames_eq
  have index := w.index
  simp only [ready, decide_eq_true_eq, Interpolation.Reached]
  omega

/-- A staged sample is a sample of the stream. -/
theorem sample_eq (w : r.Window input position dropped) {channel frame : Nat}
    (lt : channel < r.channels) (staged : frame < r.staged) :
    r.sample channel frame =
      (r.stream input).getD ((dropped + frame) * r.channels + channel) 0 := by
  have bound : frame * r.channels + channel < r.staged * r.channels := by
    have := Nat.mul_le_mul_right r.channels staged
    rw [Nat.succ_mul] at this
    omega
  have held := congrArg (fun l : List Float32 => l.getD (frame * r.channels + channel) 0) w.held
  simp only [List.getD_eq_getElem?_getD, List.getElem?_take, if_pos bound,
    List.getElem?_drop] at held
  rw [sample, Array.getD_eq_getD_getElem?, ← Array.getElem?_toList, held,
    List.getD_eq_getElem?_getD, Nat.add_mul, Nat.add_assoc]

/-- A staged sample from the read position on is a sample of the input. -/
theorem sample_ahead (w : r.Window input position dropped) {channel ahead : Nat}
    (lt : channel < r.channels) (staged : r.index + ahead < r.staged) :
    r.sample channel (r.index + ahead) =
      channelOf r.channels input channel (position / phaseUnit + ahead) := by
  have place : (dropped + (r.index + ahead)) * r.channels + channel =
      r.quality.history * r.channels +
        ((position / phaseUnit + ahead) * r.channels + channel) := by
    rw [← Nat.add_assoc, w.index, Nat.add_assoc, Nat.add_mul]
    omega
  rw [w.sample_eq lt staged, place, stream, channelOf, List.getD_eq_getElem?_getD,
    List.getElem?_append_right (by simp), List.length_replicate, Nat.add_sub_cancel_left,
    List.getD_eq_getElem?_getD]

/-- The staged sample before the read position is a sample of the input, or the silence before
it. -/
theorem sample_behind (w : r.Window input position dropped) {channel : Nat}
    (cubic : r.quality = .cubic) (lt : channel < r.channels) (staged : r.index < r.staged) :
    r.sample channel (r.index - 1) =
      if position / phaseUnit = 0 then 0
      else channelOf r.channels input channel (position / phaseUnit - 1) := by
  have history : r.quality.history = 1 := by rw [cubic]; rfl
  have index := w.index
  have history_le := w.history_le
  rw [history] at index history_le
  have place : dropped + (r.index - 1) = position / phaseUnit := by omega
  rw [w.sample_eq lt (by omega), place, stream, history, Nat.one_mul]
  split
  · rename_i start
    rw [start, Nat.zero_mul, Nat.zero_add, List.getD_eq_getElem?_getD,
      List.getElem?_append_left (by simpa using lt), List.getElem?_replicate, if_pos lt]
    rfl
  · rename_i later
    have split : position / phaseUnit * r.channels + channel =
        r.channels + ((position / phaseUnit - 1) * r.channels + channel) := by
      obtain ⟨before, eq⟩ := Nat.exists_eq_succ_of_ne_zero later
      rw [eq, Nat.succ_sub_one, Nat.succ_mul]
      omega
    rw [split, channelOf, List.getD_eq_getElem?_getD, List.getElem?_append_right (by simp),
      List.length_replicate, Nat.add_sub_cancel_left, List.getD_eq_getElem?_getD]

/-- A frame that can be produced is the value of the formula on the input. -/
theorem frame_eq (w : r.Window input position dropped) (ready : r.ready = true) :
    r.frame = r.quality.frameAt r.channels input position := by
  simp only [Resampler.ready, decide_eq_true_eq] at ready
  unfold frame Interpolation.frameAt
  apply List.map_congr_left
  intro channel member
  have lt := List.mem_range.mp member
  have here := w.sample_ahead lt (show r.index + 0 < r.staged by omega)
  simp only [Nat.add_zero] at here
  cases quality : r.quality with
  | linear =>
    rw [quality] at ready
    simp only [Interpolation.lookahead] at ready
    simp only [Interpolation.value, Interpolation.line, Interpolation.reference, here,
      w.fraction, w.sample_ahead lt ready]
  | cubic =>
    rw [quality] at ready
    simp only [Interpolation.lookahead] at ready
    have behind := w.sample_behind quality lt (by omega)
    simp only [Interpolation.value, Interpolation.curve, Interpolation.reference, here, behind,
      w.fraction, w.sample_ahead lt ready,
      w.sample_ahead lt (show r.index + 1 < r.staged by omega)]

end Window

end Resampler

end Mixdown
