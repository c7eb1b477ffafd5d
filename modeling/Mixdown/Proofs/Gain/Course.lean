import Mixdown.Proofs.Gain.Frames
import Mixdown.Proofs.Single.Arithmetic

/-!
# Ramps on course

A ramp is on course when its gain lies between its ends and has not strayed far from a straight line
between them. Rounding takes it off that line by no more than a unit of the last place for each
frame, however frames are stepped through or skipped. So a ramp that moves far enough in its frames
stays on course until it lands.
-/

namespace Mixdown

open Single (value? Fits Nearest Rounds)

/-- The way from one gain to another in so many frames is gentle: it is long enough for what
rounding adds up to. -/
def Gentle (start goal : ℚ) (frames : ℕ) : Prop :=
  (frames * (2 * frames + 3) : ℚ) ≤ 2 ^ 25 * |goal - start|

/-- A gentle way between gains has few frames. -/
theorem Gentle.frames_lt {start goal : ℚ} {frames : ℕ} (gentle : Gentle start goal frames)
    (short : |goal - start| ≤ 1) : frames < 2 ^ 24 := by
  have room := gentle.trans (mul_le_mul_of_nonneg_left short (by norm_num : (0 : ℚ) ≤ 2 ^ 25))
  have bound : frames * (2 * frames + 3) ≤ 2 ^ 25 := by exact_mod_cast room
  nlinarith

/-- A gain on a gentle way, after `done` of its frames. -/
structure Course (start goal slope : ℚ) (frames done : ℕ) (gain : ℚ) : Prop where
  inside : |start| ≤ 1 ∧ |goal| ≤ 1 ∧ |goal - start| ≤ 1
  gentle : Gentle start goal frames
  slope_near : |frames * slope - (goal - start)| ≤ 3 / 2 ^ 25
  toward : (0 ≤ goal - start → 0 ≤ slope) ∧ (goal - start ≤ 0 → slope ≤ 0)
  early : done < frames
  between : gain ∈ Set.uIcc start goal
  near : |gain - (start + done * slope)| ≤ done / 2 ^ 24
  fits : Fits gain

namespace Course

variable {start goal slope gain : ℚ} {frames done : ℕ}

theorem neg (course : Course start goal slope frames done gain) :
    Course (-start) (-goal) (-slope) frames done (-gain) := by
  have turned : -goal - -start = -(goal - start) := by ring
  refine ⟨?_, ?_, ?_, ?_, course.early, ?_, ?_, course.fits.neg⟩
  · rw [turned, abs_neg, abs_neg, abs_neg]
    exact course.inside
  · unfold Gentle
    rw [turned, abs_neg]
    exact course.gentle
  · rw [turned, show (frames : ℚ) * -slope - -(goal - start) =
      -(frames * slope - (goal - start)) by ring, abs_neg]
    exact course.slope_near
  · rw [turned, neg_nonneg, neg_nonpos, neg_nonneg, neg_nonpos]
    exact ⟨course.toward.2, course.toward.1⟩
  · rw [Set.mem_uIcc, neg_le_neg_iff, neg_le_neg_iff, neg_le_neg_iff, neg_le_neg_iff]
    have between := Set.mem_uIcc.mp course.between
    tauto
  · rw [show -gain - (-start + done * -slope) = -(gain - (start + done * slope)) by ring, abs_neg]
    exact course.near

/-- Until the last frame, a rising line keeps off its goal by what may be added by rounding. -/
theorem room (course : Course start goal slope frames done gain) (rising : start ≤ goal) {k : ℕ}
    (before : k < frames) : (k : ℚ) * (slope + 1 / 2 ^ 24) ≤ goal - start := by
  have gentle := course.gentle
  have near := (abs_le.mp course.slope_near).2
  have upward : 0 ≤ slope := course.toward.1 (by linarith)
  have some_frames : (0 : ℚ) < frames := by exact_mod_cast Nat.zero_lt_of_lt before
  have last : (k : ℚ) ≤ frames - 1 := by
    rw [le_sub_iff_add_le]
    exact_mod_cast before
  unfold Gentle at gentle
  rw [abs_of_nonneg (by linarith)] at gentle
  have whole : ((frames : ℚ) - 1) * (slope + 1 / 2 ^ 24) ≤ goal - start := by
    refine le_of_mul_le_mul_left ?_ some_frames
    have one_less : (0 : ℚ) ≤ frames - 1 := (Nat.cast_nonneg k).trans last
    calc (frames : ℚ) * ((frames - 1) * (slope + 1 / 2 ^ 24))
        = (frames - 1) * (frames * slope + frames / 2 ^ 24) := by ring
      _ ≤ (frames - 1) * (goal - start + 3 / 2 ^ 25 + frames / 2 ^ 24) :=
        mul_le_mul_of_nonneg_left (by linarith) one_less
      _ = frames * (goal - start) - (goal - start) +
          (frames - 1) * (2 * frames + 3) / 2 ^ 25 := by ring
      _ ≤ frames * (goal - start) := by
        have less : ((frames : ℚ) - 1) * (2 * frames + 3) ≤ frames * (2 * frames + 3) :=
          mul_le_mul_of_nonneg_right (by linarith) (by positivity)
        linarith
  exact (mul_le_mul_of_nonneg_right last (by positivity)).trans whole

/-- Some more frames of a rising gain, by a part that is near enough to their share. -/
theorem rise (course : Course start goal slope frames done gain) (rising : start ≤ goal) {n : ℕ}
    (pos : 0 < n) (before : done + n < frames) {part : ℚ}
    (close : |part - n * slope| ≤ 1 / 2 ^ 25) (along : 0 ≤ part) :
    |gain + part| ≤ 1 ∧ ∀ {gain' : ℚ}, Nearest (gain + part) gain' →
      Course start goal slope frames (done + n) gain' := by
  have room := course.room rising before
  have near := abs_le.mp course.near
  have close := abs_le.mp close
  have start_inside := abs_le.mp course.inside.1
  have goal_inside := abs_le.mp course.inside.2.1
  have between := course.between
  rw [Set.uIcc_of_le rising] at between
  have some_frames : (1 : ℚ) ≤ n := by exact_mod_cast pos
  push_cast at room
  have small : |gain + part| ≤ 1 := by
    rw [abs_le]
    constructor
    · linarith [between.1]
    · linarith
  refine ⟨small, fun {gain'} nearest => ?_⟩
  have error := abs_le.mp (nearest.error_le_of_le_one small)
  have near' : |gain' - (start + (done + n : ℕ) * slope)| ≤ (done + n : ℕ) / 2 ^ 24 := by
    rw [abs_le]
    push_cast
    constructor
    · linarith
    · linarith
  refine ⟨course.inside, course.gentle, course.slope_near, course.toward, before, ?_, near',
    nearest.fits⟩
  rw [Set.uIcc_of_le rising]
  have near' := abs_le.mp near'
  push_cast at near'
  refine ⟨between.1.trans (nearest.le_of_le course.fits (by linarith)), ?_⟩
  linarith

/-- Some more frames of a gain on course. -/
theorem advance (course : Course start goal slope frames done gain) {n : ℕ} (pos : 0 < n)
    (before : done + n < frames) {part : ℚ} (close : |part - n * slope| ≤ 1 / 2 ^ 25)
    (along : (0 ≤ slope → 0 ≤ part) ∧ (slope ≤ 0 → part ≤ 0)) :
    |gain + part| ≤ 1 ∧ ∀ {gain' : ℚ}, Nearest (gain + part) gain' →
      Course start goal slope frames (done + n) gain' := by
  rcases le_total start goal with rising | falling
  · exact course.rise rising pos before close (along.1 (course.toward.1 (by linarith)))
  · have turned : |-part - n * -slope| ≤ 1 / 2 ^ 25 := by
      rw [show -part - n * -slope = -(part - n * slope) by ring, abs_neg]
      exact close
    obtain ⟨small, there⟩ := course.neg.rise (neg_le_neg falling) pos before turned
      (neg_nonneg.mpr (along.2 (course.toward.2 (by linarith))))
    rw [← neg_add, abs_neg] at small
    refine ⟨small, fun {gain'} nearest => ?_⟩
    have course' := (there (by rw [← neg_add]; exact nearest.neg)).neg
    simp only [neg_neg] at course'
    exact course'

/-- The share of some frames is a gain. -/
theorem share_le (course : Course start goal slope frames done gain) {n : ℕ} (before : n < frames) :
    |n * slope| ≤ 1 := by
  have rise : ∀ {start goal slope gain : ℚ}, Course start goal slope frames done gain →
      start ≤ goal → |n * slope| ≤ 1 := by
    intro start goal slope gain course rising
    have upward : 0 ≤ slope := course.toward.1 (by linarith)
    have room := course.room rising before
    have inside := (abs_le.mp course.inside.2.2).2
    rw [abs_of_nonneg (by positivity)]
    have more : (n : ℚ) * slope ≤ n * (slope + 1 / 2 ^ 24) :=
      mul_le_mul_of_nonneg_left (by linarith) (Nat.cast_nonneg n)
    linarith
  rcases le_total start goal with rising | falling
  · exact rise course rising
  · have turned := rise course.neg (neg_le_neg falling)
    rwa [mul_neg, abs_neg] at turned

end Course

/-- The single is a gain between silence and unity. -/
def IsGain (x : Float32) : Prop := ∃ v, value? x = some v ∧ 0 ≤ v ∧ v ≤ 1

namespace Ramp

/-- A ramp that is about to move from one gain to another in so many frames. -/
def between (start goal : Float32) (frames : Nat) : Ramp :=
  ⟨start, goal, (goal - start) / Single.ofNat frames, frames⟩

/-- A ramp on its way, at a gain of a course. -/
structure Follows (r : Ramp) (start goal slope : ℚ) (frames done : ℕ) (gain : ℚ) : Prop where
  current : value? r.current = some gain
  target : value? r.target = some goal
  increment : value? r.increment = some slope
  left : done + r.remaining = frames
  course : Course start goal slope frames done gain

variable {r : Ramp} {start goal slope gain : ℚ} {frames done : ℕ}

/-- Frames that are stepped through or skipped before the last one keep a ramp on its course. -/
theorem Follows.advance (follows : r.Follows start goal slope frames done gain) {n : ℕ}
    (pos : 0 < n) (before : n < r.remaining) {part : Float32} {share : ℚ}
    (value : value? part = some share) (close : |share - n * slope| ≤ 1 / 2 ^ 25)
    (along : (0 ≤ slope → 0 ≤ share) ∧ (slope ≤ 0 → share ≤ 0)) :
    ∃ gain', Follows { r with current := r.current + part, remaining := r.remaining - n }
      start goal slope frames (done + n) gain' := by
  have left := follows.left
  obtain ⟨small, there⟩ := follows.course.advance pos (by omega) close along
  obtain ⟨gain', reached, nearest⟩ := Single.rounds_add follows.current value
    (small.trans (by norm_num))
  refine ⟨gain', reached, follows.target, follows.increment, ?_, there nearest⟩
  show done + n + (r.remaining - n) = frames
  omega

theorem Follows.step (follows : r.Follows start goal slope frames done gain)
    (before : 1 < r.remaining) :
    ∃ gain', r.step.Follows start goal slope frames (done + 1) gain' := by
  have step : r.step =
      { r with current := r.current + r.increment, remaining := r.remaining - 1 } := by
    obtain ⟨left, same⟩ : ∃ left, r.remaining = left + 2 := ⟨r.remaining - 2, by omega⟩
    unfold Ramp.step
    rw [same]
    rfl
  rw [step]
  refine follows.advance (by decide) before follows.increment ?_ ⟨id, id⟩
  rw [Nat.cast_one, one_mul, sub_self, abs_zero]
  norm_num

theorem Follows.after (follows : r.Follows start goal slope frames done gain) {n : ℕ}
    (before : n < r.remaining) :
    ∃ gain', (r.after n).Follows start goal slope frames (done + n) gain' := by
  induction n with
  | zero => exact ⟨gain, follows⟩
  | succ n ih =>
    obtain ⟨near, there⟩ := ih (by omega)
    rw [after_succ]
    exact there.step (by rw [remaining_after]; omega)

theorem Follows.skip (follows : r.Follows start goal slope frames done gain) {n : ℕ} (pos : 0 < n)
    (before : n < r.remaining) :
    ∃ gain', (r.skip n).Follows start goal slope frames (done + n) gain' := by
  have left := follows.left
  have course := follows.course
  have few := course.gentle.frames_lt course.inside.2.2
  have share := course.share_le (n := n) (by omega)
  rw [mul_comm] at share
  obtain ⟨part, value, nearest⟩ := Single.rounds_mul follows.increment
    (Single.value?_ofNat (n := n) (by omega)) (share.trans (by norm_num))
  have close : |part - n * slope| ≤ 1 / 2 ^ 25 := by
    rw [mul_comm (n : ℚ)]
    exact nearest.error_le_of_le_one share
  rw [skip_of_early before]
  exact follows.advance pos before value close
    ⟨fun upward => nearest.le_of_le Single.fits_zero (mul_nonneg upward (Nat.cast_nonneg n)),
      fun downward => nearest.ge_of_ge Single.fits_zero
        (mul_nonpos_of_nonpos_of_nonneg downward (Nat.cast_nonneg n))⟩

/-- A gentle way is followed from its start. -/
theorem follows_between {g₀ g₁ : Float32} {v₀ v₁ : ℚ} (from_here : value? g₀ = some v₀)
    (to_there : value? g₁ = some v₁) (inside : |v₀| ≤ 1 ∧ |v₁| ≤ 1 ∧ |v₁ - v₀| ≤ 1) {frames : ℕ}
    (pos : 0 < frames) (gentle : Gentle v₀ v₁ frames) :
    ∃ slope, (between g₀ g₁ frames).Follows v₀ v₁ slope frames 0 v₀ := by
  have few := gentle.frames_lt inside.2.2
  have some_frames : (0 : ℚ) < frames := by exact_mod_cast pos
  obtain ⟨way, difference, near⟩ := Single.rounds_sub to_there from_here
    (inside.2.2.trans (by norm_num))
  have way_le : |way| ≤ 1 := near.abs_le_of_le Single.fits_one inside.2.2
  have part_le : |way / frames| ≤ 1 := by
    rw [abs_div, abs_of_pos some_frames]
    exact (div_le_self (abs_nonneg way) (by exact_mod_cast pos)).trans way_le
  obtain ⟨slope, increment, nearest⟩ := Single.rounds_div difference (Single.value?_ofNat few)
    (ne_of_gt some_frames) (part_le.trans (by norm_num))
  have way_error : |way - (v₁ - v₀)| ≤ 1 / 2 ^ 25 := near.error_le_of_le_one inside.2.2
  -- the part of one frame is rounded in the places that are left below it
  have slope_error : |frames * slope - way| ≤ 2 / 2 ^ 25 := by
    have places : frames.log2 < 24 := (Nat.log2_lt (Nat.ne_of_gt pos)).mpr few
    have lower : (2 : ℚ) ^ frames.log2 ≤ frames := by
      exact_mod_cast Nat.log2_self_le (Nat.ne_of_gt pos)
    have upper : (frames : ℚ) ≤ 2 * 2 ^ frames.log2 := by
      rw [mul_comm, ← pow_succ]
      exact_mod_cast Nat.lt_log2_self.le
    have power : (0 : ℚ) < 2 ^ frames.log2 := by positivity
    have magnitude : |way / frames| ≤ 2 ^ (-(frames.log2 : ℤ)) := by
      rw [abs_div, abs_of_pos some_frames, zpow_neg, zpow_natCast, div_le_iff₀ some_frames]
      rw [inv_mul_eq_div, le_div_iff₀ power]
      exact (mul_le_mul way_le lower power.le zero_le_one).trans_eq (one_mul _)
    have error := nearest.error_le (by omega) magnitude
    rw [zpow_sub₀ (by norm_num), zpow_neg, zpow_natCast] at error
    rw [show (frames : ℚ) * slope - way = frames * (slope - way / frames) by field_simp, abs_mul,
      abs_of_pos some_frames]
    calc (frames : ℚ) * |slope - way / frames|
        ≤ (2 * 2 ^ frames.log2) * (((2 : ℚ) ^ frames.log2)⁻¹ / 2 ^ (25 : ℤ)) :=
          mul_le_mul upper error (abs_nonneg _) (by positivity)
      _ = 2 / 2 ^ 25 := by
        field_simp
  refine ⟨slope, from_here, to_there, increment, Nat.zero_add _, inside, gentle, ?_, ⟨?_, ?_⟩, pos,
    Set.left_mem_uIcc, ?_, Single.fits_value? from_here⟩
  · have total := abs_sub_le ((frames : ℚ) * slope) way (v₁ - v₀)
    linarith
  · intro upward
    exact nearest.le_of_le Single.fits_zero
      (div_nonneg (near.le_of_le Single.fits_zero upward) some_frames.le)
  · intro downward
    exact nearest.ge_of_ge Single.fits_zero
      (div_nonpos_of_nonpos_of_nonneg (near.ge_of_ge Single.fits_zero downward) some_frames.le)
  · simp

/-- A ramp whose gain and target are gains, and which is on course while it is moving. -/
structure OnCourse (r : Ramp) : Prop where
  current : IsGain r.current
  target : IsGain r.target
  moving : r.isMoving = true → ∃ start goal slope frames done gain,
    0 ≤ start ∧ start ≤ 1 ∧ r.Follows start goal slope frames done gain

theorem onCourse_settled {gain : Float32} (isGain : IsGain gain) : (settled gain).OnCourse := by
  refine ⟨isGain, isGain, ?_⟩
  intro moving
  cases moving

/-- What a ramp has come to on its course is a gain. -/
theorem Follows.onCourse (follows : r.Follows start goal slope frames done gain)
    (start_inside : 0 ≤ start ∧ start ≤ 1) (goal_inside : 0 ≤ goal ∧ goal ≤ 1) : r.OnCourse := by
  refine ⟨⟨gain, follows.current, ?_⟩, ⟨goal, follows.target, goal_inside⟩, fun _ =>
    ⟨start, goal, slope, frames, done, gain, start_inside.1, start_inside.2, follows⟩⟩
  rcases Set.mem_uIcc.mp follows.course.between with ⟨above, below⟩ | ⟨above, below⟩
  · exact ⟨start_inside.1.trans above, below.trans goal_inside.2⟩
  · exact ⟨goal_inside.1.trans above, below.trans start_inside.2⟩

/-- The goal of a course is the target of the ramp. -/
theorem Follows.goal_inside (follows : r.Follows start goal slope frames done gain)
    (target : IsGain r.target) : 0 ≤ goal ∧ goal ≤ 1 := by
  obtain ⟨v, value, inside⟩ := target
  obtain rfl := Option.some.inj (follows.target.symm.trans value)
  exact inside

/-- A ramp that lands stands on its target. -/
theorem OnCourse.land (onCourse : r.OnCourse) :
    OnCourse { r with remaining := 0, current := r.target } := by
  refine ⟨onCourse.target, onCourse.target, ?_⟩
  intro moving
  cases moving

theorem OnCourse.step (onCourse : r.OnCourse) : r.step.OnCourse := by
  by_cases last : r.remaining ≤ 1
  · unfold Ramp.step
    split
    · exact onCourse
    · exact onCourse.land
    · omega
  · obtain ⟨start, goal, slope, frames, done, gain, above, below, follows⟩ :=
      onCourse.moving (isMoving_eq_true.mpr (by omega))
    obtain ⟨gain', follows'⟩ := follows.step (by omega)
    exact follows'.onCourse ⟨above, below⟩ (follows.goal_inside onCourse.target)

theorem OnCourse.skip (onCourse : r.OnCourse) {n : ℕ} (pos : 0 < n) : (r.skip n).OnCourse := by
  by_cases landed : r.remaining ≤ n
  · unfold Ramp.skip
    rw [if_pos landed]
    exact onCourse.land
  · obtain ⟨start, goal, slope, frames, done, gain, above, below, follows⟩ :=
      onCourse.moving (isMoving_eq_true.mpr (by omega))
    obtain ⟨gain', follows'⟩ := follows.skip pos (by omega)
    exact follows'.onCourse ⟨above, below⟩ (follows.goal_inside onCourse.target)

theorem OnCourse.after (onCourse : r.OnCourse) (i : ℕ) : (r.after i).OnCourse := by
  induction i with
  | zero => exact onCourse
  | succ i ih =>
    rw [after_succ]
    exact ih.step

/-- A ramp is asked to move in so many frames along a gentle way, or it does not have to move. -/
def Eases (r : Ramp) (gain : Float32) (frames : ℕ) : Prop :=
  frames = 0 ∨ (gain == r.target) = true ∨ (gain == r.current) = true ∨
    ∃ v₀ v₁, value? r.current = some v₀ ∧ value? gain = some v₁ ∧ Gentle v₀ v₁ frames

/-- A ramp that is sent along a gentle way is on course. -/
theorem OnCourse.steer (onCourse : r.OnCourse) {gain : Float32} (isGain : IsGain gain) {frames : ℕ}
    (eases : r.Eases gain frames) : (r.steer gain frames).OnCourse := by
  unfold Ramp.steer
  split
  · exact onCourse_settled isGain
  · rename_i some_frames
    unfold moveTo
    split
    · exact onCourse
    · rename_i other_target
      split
      · exact onCourse_settled isGain
      · rename_i apart
        rw [not_or] at apart
        rcases eases with none | same | same | ⟨v₀, v₁, from_here, to_there, gentle⟩
        · exact absurd none some_frames
        · exact absurd same other_target
        · exact absurd same apart.2
        · obtain ⟨v, value, start_inside⟩ := onCourse.current
          obtain rfl := Option.some.inj (from_here.symm.trans value)
          obtain ⟨v', value', goal_inside⟩ := isGain
          obtain rfl := Option.some.inj (to_there.symm.trans value')
          have inside : |v₀| ≤ 1 ∧ |v₁| ≤ 1 ∧ |v₁ - v₀| ≤ 1 := by
            simp only [abs_le]
            constructor
            · constructor <;> linarith
            · constructor
              · constructor <;> linarith
              · constructor <;> linarith
          obtain ⟨slope, follows⟩ := follows_between from_here to_there inside
            (Nat.pos_of_ne_zero some_frames) gentle
          exact follows.onCourse start_inside goal_inside

end Ramp

end Mixdown
