import Mixdown.Gain.Basic
import Mixdown.Proofs.Gain.Course

/-!
# The gains of a track between silence and unity

What is written as a gain is moved between silence and unity first. The gains of a volume stay there
as long as all its ramps are on course, which blocks keep and which a new ramp keeps if it is sent
along a gentle way.
-/

namespace Mixdown

open Single (value?)

namespace Single

/-- A single that is moved into a range has the nearest value of the range. -/
theorem value?_clamp {lo hi x : Float32} {a b v : ℚ} (low : value? lo = some a)
    (high : value? hi = some b) (value : value? x = some v) (ordered : a ≤ b) :
    value? (clamp lo hi x) = some (max a (min b v)) := by
  unfold clamp
  by_cases below : x < lo
  · have less := (lt_iff value low).mp below
    rw [if_pos below, low, min_eq_right (less.le.trans ordered), max_eq_left less.le]
  · have least := le_of_not_gt (mt (lt_iff value low).mpr below)
    rw [if_neg below]
    by_cases above : hi < x
    · have more := (lt_iff high value).mp above
      rw [if_pos above, high, min_eq_left more.le, max_eq_right ordered]
    · have most := le_of_not_gt (mt (lt_iff high value).mpr above)
      rw [if_neg above, value, min_eq_right most, max_eq_right least]

end Single

/-- What is accepted as a gain is between silence and unity. -/
theorem isGain_of_clamp {value gain : Float32} (clamped : clampTrackGain? value = some gain) :
    IsGain gain := by
  unfold clampTrackGain? at clamped
  by_cases finite : value.isFinite = true
  · rw [if_pos finite] at clamped
    obtain rfl := Option.some.inj clamped
    obtain ⟨v, there⟩ := Single.exists_value? finite
    exact ⟨_, Single.value?_clamp Single.value?_zero Single.value?_one there zero_le_one,
      le_max_left _ _, max_le zero_le_one (min_le_left _ _)⟩
  · rw [if_neg finite] at clamped
    cases clamped

theorem isGain_zero : IsGain 0 := ⟨0, Single.value?_zero, le_refl _, zero_le_one⟩

theorem isGain_one : IsGain 1 := ⟨1, Single.value?_one, zero_le_one, le_refl _⟩

namespace Volume

/-- Every ramp of the volume is on course. -/
def OnCourse (v : Volume) : Prop := ∀ name, (v.ramp name).OnCourse

theorem onCourse_unity : unity.OnCourse := by
  intro name
  cases name with
  | left => exact Ramp.onCourse_settled isGain_one
  | right => exact Ramp.onCourse_settled isGain_one
  | aux => exact Ramp.onCourse_settled isGain_zero

variable {v : Volume}

theorem OnCourse.after (onCourse : v.OnCourse) (i : ℕ) : (v.after i).OnCourse := by
  intro name
  rw [ramp_after]
  exact (onCourse name).after i

theorem OnCourse.afterBlock (onCourse : v.OnCourse) {frames heard : ℕ} (few : heard ≤ frames) :
    (v.afterBlock frames heard).OnCourse := by
  rcases Nat.lt_or_eq_of_le few with short | rfl
  · rw [afterBlock_short v short]
    intro name
    rw [ramp_skip]
    exact (onCourse.after heard name).skip (Nat.sub_pos_of_lt short)
  · rw [afterBlock_full]
    exact onCourse.after _

end Volume

end Mixdown
