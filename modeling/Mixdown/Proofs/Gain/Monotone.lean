import Mixdown.Proofs.Gain.Course

/-!
# Ramps from one gain to another

The gains of a ramp never turn back before the ramp lands, whatever is rounded, and it lands on its
target exactly. What rounding can do is to carry the gain past the target before that. It does not
when the last gain before the landing has not passed it, and it does not on a gentle way.
-/

namespace Mixdown

open Single (value? Nearest)

namespace Ramp

variable {g₀ g₁ : Float32} {frames : ℕ}

theorem current_after_landed (pos : 0 < frames) {k : ℕ} (late : frames ≤ k) :
    ((between g₀ g₁ frames).after k).current = g₁ := by
  have landed : (between g₀ g₁ frames).Landed := fun none => absurd none (Nat.ne_of_gt pos)
  have rest : ((between g₀ g₁ frames).after k).isMoving = false := by
    rw [isMoving_eq_false, remaining_after]
    exact Nat.sub_eq_zero_of_le late
  rw [(landed.after k).current_eq rest, target_after]
  rfl

theorem current_after_succ {k : ℕ} (early : k + 1 < frames) :
    ((between g₀ g₁ frames).after (k + 1)).current =
      ((between g₀ g₁ frames).after k).current + (g₁ - g₀) / Single.ofNat frames := by
  have left : ((between g₀ g₁ frames).after k).remaining = frames - k := remaining_after _ _
  have increment : ((between g₀ g₁ frames).after k).increment = (g₁ - g₀) / Single.ofNat frames :=
    increment_after _ _
  obtain ⟨more, same⟩ : ∃ more, frames - k = more + 2 := ⟨frames - k - 2, by omega⟩
  rw [after_succ, ← increment]
  unfold Ramp.step
  rw [left, same]

/-- What is added in each frame of a ramp: it leads towards the target, and over all frames it does
not go far beyond full scale. -/
structure Slope (g₀ g₁ : Float32) (frames : ℕ) (v₀ v₁ slope : ℚ) : Prop where
  value : value? ((g₁ - g₀) / Single.ofNat frames) = some slope
  upward : v₀ ≤ v₁ → 0 ≤ slope
  downward : v₁ ≤ v₀ → slope ≤ 0
  way_le : frames * |slope| ≤ 4

section

variable {v₀ v₁ slope : ℚ}

theorem exists_slope (from_here : value? g₀ = some v₀) (to_there : value? g₁ = some v₁)
    (start_inside : 0 ≤ v₀ ∧ v₀ ≤ 1) (goal_inside : 0 ≤ v₁ ∧ v₁ ≤ 1) (pos : 0 < frames) :
    ∃ slope, Slope g₀ g₁ frames v₀ v₁ slope := by
  have apart : |v₁ - v₀| ≤ 1 := by
    rw [abs_le]
    constructor <;> linarith
  obtain ⟨way, difference, near⟩ := Single.rounds_sub to_there from_here
    (apart.trans (by norm_num))
  obtain ⟨slope, value, upward, downward, way_le⟩ :=
    Single.exists_div_ofNat difference (near.abs_le_of_le Single.fits_one apart) pos
  refine ⟨slope, value, fun rising => ?_, fun falling => ?_, way_le⟩
  · exact upward (near.le_of_le Single.fits_zero (sub_nonneg.mpr rising))
  · exact downward (near.ge_of_ge Single.fits_zero (sub_nonpos.mpr falling))

/-- The next gain is well within range. -/
theorem Slope.small (sloped : Slope g₀ g₁ frames v₀ v₁ slope) (start_inside : 0 ≤ v₀ ∧ v₀ ≤ 1)
    {k : ℕ} (early : k < frames) {c : ℚ} (close : |c - v₀| ≤ 2 * (k * |slope|)) :
    |c + slope| ≤ 2 ^ 127 := by
  have some_frames : (1 : ℚ) ≤ frames := by exact_mod_cast Nat.one_le_of_lt early
  have share : (k : ℚ) * |slope| ≤ frames * |slope| :=
    mul_le_mul_of_nonneg_right (by exact_mod_cast early.le) (abs_nonneg slope)
  have way_le := sloped.way_le
  have one := abs_le.mp ((le_mul_of_one_le_left (abs_nonneg slope) some_frames).trans way_le)
  have close := abs_le.mp (close.trans (by linarith : 2 * (k * |slope|) ≤ 8))
  rw [abs_le]
  constructor <;> linarith

/-- Before a ramp lands its gains are values. One that stands already is as near to the next one as
the sum is, so that no step is longer than twice the slope. -/
theorem Slope.reached (sloped : Slope g₀ g₁ frames v₀ v₁ slope) (from_here : value? g₀ = some v₀)
    (start_inside : 0 ≤ v₀ ∧ v₀ ≤ 1) {k : ℕ} (early : k < frames) :
    ∃ c, value? ((between g₀ g₁ frames).after k).current = some c ∧
      |c - v₀| ≤ 2 * (k * |slope|) := by
  induction k with
  | zero => exact ⟨v₀, from_here, by simp⟩
  | succ k ih =>
    obtain ⟨c, value, close⟩ := ih (by omega)
    obtain ⟨c', value', nearest⟩ :=
      Single.rounds_add value sloped.value (sloped.small start_inside (by omega) close)
    rw [current_after_succ early]
    refine ⟨c', value', ?_⟩
    have least := nearest.least c (Single.fits_value? value)
    rw [show c - (c + slope) = -slope by ring, abs_neg] at least
    have least := abs_le.mp least
    have close := abs_le.mp close
    have slope_le := abs_le.mp (le_refl |slope|)
    rw [abs_le]
    push_cast
    constructor <;> linarith

/-- The gains of a ramp are values, and one follows from the other by adding a slope that leads
towards the target. -/
theorem exists_gains (from_here : value? g₀ = some v₀) (to_there : value? g₁ = some v₁)
    (start_inside : 0 ≤ v₀ ∧ v₀ ≤ 1) (goal_inside : 0 ≤ v₁ ∧ v₁ ≤ 1) (pos : 0 < frames) :
    ∃ (gains : ℕ → ℚ) (slope : ℚ),
      (∀ k, value? ((between g₀ g₁ frames).after k).current = some (gains k)) ∧
      gains 0 = v₀ ∧ (∀ k, frames ≤ k → gains k = v₁) ∧
      (v₀ ≤ v₁ → 0 ≤ slope) ∧ (v₁ ≤ v₀ → slope ≤ 0) ∧
      ∀ k, k + 1 < frames → Nearest (gains k + slope) (gains (k + 1)) := by
  obtain ⟨slope, sloped⟩ := exists_slope from_here to_there start_inside goal_inside pos
  have value : ∀ k, ∃ c, value? ((between g₀ g₁ frames).after k).current = some c := by
    intro k
    rcases Nat.lt_or_ge k frames with early | late
    · obtain ⟨c, value, -⟩ := sloped.reached from_here start_inside early
      exact ⟨c, value⟩
    · exact ⟨v₁, by rw [current_after_landed pos late, to_there]⟩
  choose gains values using value
  refine ⟨gains, slope, values, ?_, ?_, sloped.upward, sloped.downward, ?_⟩
  · exact Option.some.inj ((values 0).symm.trans from_here)
  · intro k late
    have there := values k
    rw [current_after_landed pos late] at there
    exact Option.some.inj (there.symm.trans to_there)
  · intro k early
    obtain ⟨c, value, close⟩ := sloped.reached from_here start_inside (Nat.lt_of_succ_lt early)
    obtain rfl := Option.some.inj (value.symm.trans (values k))
    obtain ⟨c', value', nearest⟩ := Single.rounds_add value sloped.value
      (sloped.small start_inside (Nat.lt_of_succ_lt early) close)
    have there := values (k + 1)
    rw [current_after_succ early] at there
    obtain rfl := Option.some.inj (value'.symm.trans there)
    exact nearest

end

/-- Before it lands, a ramp never turns back. -/
theorem keeps_direction {v₀ v₁ : ℚ} (from_here : value? g₀ = some v₀)
    (to_there : value? g₁ = some v₁) (start_inside : 0 ≤ v₀ ∧ v₀ ≤ 1)
    (goal_inside : 0 ≤ v₁ ∧ v₁ ≤ 1) {k : ℕ} (early : k + 1 < frames) {c c' : ℚ}
    (here : value? ((between g₀ g₁ frames).after k).current = some c)
    (there : value? ((between g₀ g₁ frames).after (k + 1)).current = some c') :
    (v₀ ≤ v₁ → c ≤ c') ∧ (v₁ ≤ v₀ → c' ≤ c) := by
  obtain ⟨gains, slope, values, -, -, upward, downward, follow⟩ :=
    exists_gains from_here to_there start_inside goal_inside (Nat.zero_lt_of_lt early)
  obtain rfl := Option.some.inj (here.symm.trans (values k))
  obtain rfl := Option.some.inj (there.symm.trans (values (k + 1)))
  refine ⟨fun rising => ?_, fun falling => ?_⟩
  · exact (follow k early).le_of_le (Single.fits_value? here) (by linarith [upward rising])
  · exact (follow k early).ge_of_ge (Single.fits_value? here) (by linarith [downward falling])

/-- The gains of a ramp lie between its ends, and none is farther from the target than the one
before. -/
structure StaysBetween (r : Ramp) (start goal : ℚ) : Prop where
  between : ∀ k, ∃ c, value? (r.after k).current = some c ∧ c ∈ Set.uIcc start goal
  nearer : ∀ k c c', value? (r.after k).current = some c →
    value? (r.after (k + 1)).current = some c' → |goal - c'| ≤ |goal - c|

/-- Gains that follow from one another by adding a slope upwards rise until they land, and if the
last of them is not above the goal, none is. -/
theorem rising_gains {gains : ℕ → ℚ} {slope goal : ℚ} (upward : 0 ≤ slope)
    (follow : ∀ k, k + 1 < frames → Nearest (gains k + slope) (gains (k + 1)))
    (fits : ∀ k, Single.Fits (gains k)) (landed : ∀ k, frames ≤ k → gains k = goal)
    (rising : gains 0 ≤ goal) (last : gains (frames - 1) ≤ goal) (k : ℕ) :
    gains 0 ≤ gains k ∧ gains k ≤ gains (k + 1) ∧ gains k ≤ goal := by
  have up : ∀ {j k : ℕ}, j ≤ k → k < frames → gains j ≤ gains k := by
    intro j k ordered
    induction k, ordered using Nat.le_induction with
    | base => exact fun _ => le_refl _
    | succ k _ ih =>
      intro early
      exact (ih (by omega)).trans ((follow k early).le_of_le (fits k) (by linarith))
  have below : gains k ≤ goal := by
    rcases Nat.lt_or_ge k frames with early | late
    · exact (up (Nat.le_sub_one_of_lt early) (by omega)).trans last
    · exact (landed k late).le
  refine ⟨?_, ?_, below⟩
  · rcases Nat.lt_or_ge k frames with early | late
    · exact up (Nat.zero_le k) early
    · rwa [landed k late]
  · rcases Nat.lt_or_ge (k + 1) frames with early | late
    · exact up (Nat.le_succ k) early
    · rwa [landed (k + 1) late]

/-- A ramp stays between its ends if its last gain before the landing does. -/
theorem staysBetween_iff {v₀ v₁ : ℚ} (from_here : value? g₀ = some v₀)
    (to_there : value? g₁ = some v₁) (start_inside : 0 ≤ v₀ ∧ v₀ ≤ 1)
    (goal_inside : 0 ≤ v₁ ∧ v₁ ≤ 1) (pos : 0 < frames) :
    (between g₀ g₁ frames).StaysBetween v₀ v₁ ↔
      ∃ c, value? ((between g₀ g₁ frames).after (frames - 1)).current = some c ∧
        c ∈ Set.uIcc v₀ v₁ := by
  refine ⟨fun stays => stays.between _, ?_⟩
  rintro ⟨last, value, last_between⟩
  obtain ⟨gains, slope, values, first, landed, upward, downward, follow⟩ :=
    exists_gains from_here to_there start_inside goal_inside pos
  obtain rfl := Option.some.inj (value.symm.trans (values _))
  have fits := fun k => Single.fits_value? (values k)
  subst first
  have between : ∀ k, gains k ∈ Set.uIcc (gains 0) v₁ ∧
      |v₁ - gains (k + 1)| ≤ |v₁ - gains k| := by
    rcases le_total (gains 0) v₁ with rising | falling
    · rw [Set.uIcc_of_le rising] at last_between ⊢
      have rise := rising_gains (upward rising) follow fits landed rising last_between.2
      intro k
      obtain ⟨above, up, below⟩ := rise k
      refine ⟨⟨above, below⟩, ?_⟩
      rw [abs_of_nonneg (sub_nonneg.mpr (rise (k + 1)).2.2), abs_of_nonneg (sub_nonneg.mpr below)]
      exact sub_le_sub_left up v₁
    · -- the same upside down
      rw [Set.uIcc_of_ge falling] at last_between ⊢
      have rise := rising_gains (neg_nonneg.mpr (downward falling))
        (fun k early => by rw [← neg_add]; exact (follow k early).neg) (fun k => (fits k).neg)
        (fun k late => congrArg (-·) (landed k late)) (neg_le_neg falling)
        (neg_le_neg last_between.1)
      simp only [neg_le_neg_iff] at rise
      intro k
      obtain ⟨below, down, above⟩ := rise k
      refine ⟨⟨above, below⟩, ?_⟩
      rw [abs_of_nonpos (sub_nonpos.mpr (rise (k + 1)).2.2), abs_of_nonpos (sub_nonpos.mpr above)]
      exact neg_le_neg (sub_le_sub_left down v₁)
  refine ⟨fun k => ⟨gains k, values k, (between k).1⟩, ?_⟩
  intro k c c' here there
  obtain rfl := Option.some.inj (here.symm.trans (values k))
  obtain rfl := Option.some.inj (there.symm.trans (values (k + 1)))
  exact (between k).2

/-- A ramp along a gentle way stays between its ends. -/
theorem staysBetween_of_gentle {v₀ v₁ : ℚ} (from_here : value? g₀ = some v₀)
    (to_there : value? g₁ = some v₁) (start_inside : 0 ≤ v₀ ∧ v₀ ≤ 1)
    (goal_inside : 0 ≤ v₁ ∧ v₁ ≤ 1) (pos : 0 < frames) (gentle : Gentle v₀ v₁ frames) :
    (between g₀ g₁ frames).StaysBetween v₀ v₁ := by
  rw [staysBetween_iff from_here to_there start_inside goal_inside pos]
  have inside : |v₀| ≤ 1 ∧ |v₁| ≤ 1 ∧ |v₁ - v₀| ≤ 1 := by
    simp only [abs_le]
    constructor
    · constructor <;> linarith
    · constructor
      · constructor <;> linarith
      · constructor <;> linarith
  obtain ⟨slope, follows⟩ := follows_between from_here to_there inside pos gentle
  obtain ⟨c, follows⟩ := follows.after (n := frames - 1) (Nat.sub_one_lt (Nat.ne_of_gt pos))
  exact ⟨c, follows.current, follows.course.between⟩

/-- How a ramp goes from one gain to another. -/
structure Travels (r : Ramp) (start goal : ℚ) (gain : Float32) (frames : ℕ) : Prop where
  lands : ∀ k, frames ≤ k → (r.after k).current = gain
  onward : ∀ k c c', k + 1 < frames → value? (r.after k).current = some c →
    value? (r.after (k + 1)).current = some c' → (start ≤ goal → c ≤ c') ∧ (goal ≤ start → c' ≤ c)
  inside_iff : r.StaysBetween start goal ↔
    ∃ c, value? (r.after (frames - 1)).current = some c ∧ c ∈ Set.uIcc start goal
  inside : Gentle start goal frames → r.StaysBetween start goal

theorem travels_moveTo {r : Ramp} {gain : Float32} {v₀ v₁ : ℚ}
    (from_here : value? r.current = some v₀) (to_there : value? gain = some v₁)
    (start_inside : 0 ≤ v₀ ∧ v₀ ≤ 1) (goal_inside : 0 ≤ v₁ ∧ v₁ ≤ 1) (pos : 0 < frames)
    (target : (gain == r.target) = false) (current : (gain == r.current) = false) :
    (r.moveTo gain frames).Travels v₀ v₁ gain frames := by
  rw [moveTo_fresh pos target current]
  exact ⟨fun _ late => current_after_landed pos late,
    fun _ _ _ early here there =>
      keeps_direction from_here to_there start_inside goal_inside early here there,
    staysBetween_iff from_here to_there start_inside goal_inside pos,
    staysBetween_of_gentle from_here to_there start_inside goal_inside pos⟩

end Ramp

end Mixdown
