import Mixdown.Proofs.Gain.Frames
import Mixdown.Proofs.Single.Arithmetic

/-!
# Frames that are skipped

To skip frames of a ramp leaves the target and the frames that are left as they are after as many
steps, and so it does the gain if the ramp lands. Before that the gain is the start plus one rounded
product, where steps add and round one by one. The two gains are near to each other, and the same if
nothing is rounded.
-/

namespace Mixdown

open Single (value? Fits)

namespace Single

/-- A single that is multiplied by one stays as it is. -/
theorem mul_ofNat_one {x : Float32} {a : ℚ} (value : value? x = some a) (small : |a| ≤ 1) :
    x * ofNat 1 = x := by
  have product := rounds_mul value (value?_ofNat (n := 1) (by decide))
    (by rw [Nat.cast_one, mul_one]; exact small.trans (by norm_num))
  rw [Nat.cast_one, mul_one] at product
  rcases (has_unpack value).cases with ⟨s, zero, -⟩ | ⟨s, m, e, pos, -, -, rfl⟩
  · obtain rfl : x = .ofModel (.pack (.zero s)) :=
      eq_of_unpack value (zero.trans (unpack_pack_zero s).symm)
    cases s with
    | positive => decide +kernel
    | negative => decide +kernel
  · refine eq_of_value? (product.value?_eq (fits_value? value)) value ?_
    have size := digits_pos pos e
    cases s with
    | positive => exact ne_of_gt size
    | negative => exact ne_of_lt (neg_neg_of_pos size)

end Single

namespace Ramp

variable {r : Ramp} {n : ℕ}

/-- Two ramps that go the same way and have the same gain. -/
theorem eq_of_current {r r' : Ramp} (current : r.current = r'.current)
    (target : r.target = r'.target) (increment : r.increment = r'.increment)
    (remaining : r.remaining = r'.remaining) : r = r' := by
  obtain ⟨c, t, i, n⟩ := r
  obtain ⟨c', t', i', n'⟩ := r'
  obtain rfl : c = c' := current
  obtain rfl : t = t' := target
  obtain rfl : i = i' := increment
  obtain rfl : n = n' := remaining
  rfl

theorem skip_eq_after (current : (r.skip n).current = (r.after n).current) :
    r.skip n = r.after n :=
  eq_of_current current (by rw [target_skip, target_after])
    (by rw [increment_skip, increment_after]) (by rw [remaining_skip, remaining_after])

/-- A ramp that lands in frames that are skipped lands where it would otherwise. -/
theorem Landed.skip_eq_after (landed : r.Landed) (late : r.remaining ≤ n) :
    r.skip n = r.after n := by
  apply Ramp.skip_eq_after
  have skipped : (r.skip n).isMoving = false := by
    rw [isMoving_eq_false, remaining_skip, Nat.sub_eq_zero_of_le late]
  have stepped : (r.after n).isMoving = false := by
    rw [isMoving_eq_false, remaining_after, Nat.sub_eq_zero_of_le late]
  rw [(r.landed_skip n).current_eq skipped, (landed.after n).current_eq stepped, target_skip,
    target_after]

/-- A single frame is skipped as it is stepped through. -/
theorem Landed.skip_one (landed : r.Landed) {slope : ℚ} (value : value? r.increment = some slope)
    (small : |slope| ≤ 1) : r.skip 1 = r.after 1 := by
  rcases Nat.lt_or_ge 1 r.remaining with early | late
  · apply Ramp.skip_eq_after
    obtain ⟨left, same⟩ : ∃ left, r.remaining = left + 2 := ⟨r.remaining - 2, by omega⟩
    have step : r.step.current = r.current + r.increment := by
      unfold Ramp.step
      rw [same]
    rw [skip_of_early early]
    exact (congrArg (r.current + ·) (Single.mul_ofNat_one value small)).trans step.symm
  · exact landed.skip_eq_after late

/-- The gain of a ramp and the way that it goes in some frames are not beyond full scale. -/
structure Moderate (r : Ramp) (n : ℕ) (start slope : ℚ) : Prop where
  current : value? r.current = some start
  increment : value? r.increment = some slope
  start_le : |start| ≤ 1
  way_le : |n * slope| ≤ 1
  few : n < 2 ^ 24

/-- Nothing is rounded on the way through some frames, neither frame by frame nor at once. -/
def Unrounded (n : ℕ) (start slope : ℚ) : Prop :=
  (∀ j ≤ n, Fits (start + j * slope)) ∧ Fits (n * slope)

/-- Multiples of one unit that are not too many for a single are not rounded on the way. -/
theorem unrounded_of_grid {c i e : ℤ} (few : |c| + n * |i| ≤ 2 ^ 24) (low : -149 ≤ e) :
    Unrounded n (c * 2 ^ e) (i * 2 ^ e) := by
  have way (j : ℕ) (le : j ≤ n) : |j * i| ≤ n * |i| := by
    rw [abs_mul, Nat.abs_cast]
    exact mul_le_mul_of_nonneg_right (by exact_mod_cast le) (abs_nonneg i)
  refine ⟨fun j le => ?_, ?_⟩
  · rw [show (c * 2 ^ e + j * (i * 2 ^ e) : ℚ) = ((c + j * i : ℤ) : ℚ) * 2 ^ e by push_cast; ring]
    exact Single.fits_grid ((abs_add_le c (j * i)).trans (by linarith [way j le])) low
  · rw [show (n * (i * 2 ^ e) : ℚ) = ((n * i : ℤ) : ℚ) * 2 ^ e by push_cast; ring]
    exact Single.fits_grid ((way n le_rfl).trans (by linarith [abs_nonneg c])) low

variable {start slope : ℚ}

theorem Moderate.line_le (moderate : r.Moderate n start slope) {j : ℕ} (le : j ≤ n) :
    |start + j * slope| ≤ 2 := by
  have part : |(j : ℚ) * slope| ≤ |n * slope| := by
    rw [abs_mul, abs_mul, Nat.abs_cast, Nat.abs_cast]
    exact mul_le_mul_of_nonneg_right (by exact_mod_cast le) (abs_nonneg slope)
  have start_le := moderate.start_le
  have way_le := moderate.way_le
  exact (abs_add_le _ _).trans (by linarith)

/-- Gains that are stepped through keep near to a straight line, and on it if nothing is rounded. -/
theorem Moderate.after (moderate : r.Moderate n start slope) (early : n < r.remaining) {j : ℕ}
    (le : j ≤ n) : ∃ gain, value? (r.after j).current = some gain ∧
      |gain - (start + j * slope)| ≤ j / 2 ^ 23 ∧
      (Unrounded n start slope → gain = start + j * slope) := by
  induction j with
  | zero => exact ⟨start, moderate.current, by simp, fun _ => by simp⟩
  | succ j ih =>
    obtain ⟨gain, value, near, exact_value⟩ := ih (by omega)
    obtain ⟨left, same⟩ : ∃ left, (r.after j).remaining = left + 2 :=
      ⟨r.remaining - j - 2, by rw [remaining_after]; omega⟩
    have step : (r.after j).step.current = (r.after j).current + r.increment := by
      rw [← increment_after r j]
      unfold Ramp.step
      rw [same]
    have next : gain + slope - (start + (j + 1 : ℕ) * slope) = gain - (start + j * slope) := by
      push_cast
      ring
    have inside : |gain + slope| ≤ 2 ^ (2 : ℤ) := by
      have line := moderate.line_le le
      have off := abs_add_le (gain + slope - (start + (j + 1 : ℕ) * slope))
        (start + (j + 1 : ℕ) * slope)
      rw [sub_add_cancel, next] at off
      have few : (j : ℚ) ≤ 2 ^ 24 := by exact_mod_cast (Nat.le_of_succ_le le).trans moderate.few.le
      norm_num at near ⊢
      linarith
    obtain ⟨gain', value', nearest⟩ := Single.rounds_add value moderate.increment
      (inside.trans (by norm_num))
    rw [after_succ, step]
    refine ⟨gain', value', ?_, ?_⟩
    · have error := nearest.error_le (by decide) inside
      have total := abs_sub_le gain' (gain + slope) (start + (j + 1 : ℕ) * slope)
      rw [next] at total
      norm_num at error near total ⊢
      linarith
    · intro unrounded
      have sum : gain + slope = start + (j + 1 : ℕ) * slope := by
        rw [← sub_eq_zero, next, exact_value unrounded, sub_self]
      rw [nearest.eq_of_fits (sum ▸ unrounded.1 _ le), sum]

/-- A gain after frames that were skipped is near to a straight line, and on it if nothing is
rounded. -/
theorem Moderate.skip (moderate : r.Moderate n start slope) (early : n < r.remaining) :
    ∃ gain, value? (r.skip n).current = some gain ∧
      |gain - (start + n * slope)| ≤ 2 / 2 ^ 23 ∧
      (Unrounded n start slope → gain = start + n * slope) := by
  have way_le := moderate.way_le
  rw [mul_comm] at way_le
  obtain ⟨way, product, near⟩ := Single.rounds_mul moderate.increment
    (Single.value?_ofNat moderate.few) (way_le.trans (by norm_num))
  rw [mul_comm] at near
  have way_error := near.error_le_of_le_one moderate.way_le
  have inside : |start + way| ≤ 2 ^ (2 : ℤ) := by
    have line := moderate.line_le le_rfl
    have off := abs_add_le (way - n * slope) (start + n * slope)
    rw [show way - n * slope + (start + n * slope) = start + way by ring] at off
    norm_num at way_error ⊢
    linarith
  obtain ⟨gain, value, nearest⟩ := Single.rounds_add moderate.current product
    (inside.trans (by norm_num))
  rw [skip_of_early early]
  refine ⟨gain, value, ?_, ?_⟩
  · have error := nearest.error_le (by decide) inside
    have total := abs_sub_le gain (start + way) (start + n * slope)
    rw [add_sub_add_left_eq_sub] at total
    norm_num at error way_error ⊢
    linarith
  · intro unrounded
    have exact_way := near.eq_of_fits unrounded.2
    rw [exact_way] at nearest
    exact nearest.eq_of_fits (unrounded.1 n le_rfl)

/-- What frames of a ramp that are skipped have in common with frames that are stepped through. -/
structure Skips (r : Ramp) (n : ℕ) : Prop where
  target : (r.skip n).target = (r.after n).target
  remaining : (r.skip n).remaining = (r.after n).remaining
  isMoving : (r.skip n).isMoving = (r.after n).isMoving
  landed : (r.after n).isMoving = false → r.skip n = r.after n
  single : ∀ start slope, n = 1 → r.Moderate n start slope → r.skip n = r.after n
  near : ∀ start slope, (r.after n).isMoving = true → r.Moderate n start slope →
    ∃ a b, value? (r.skip n).current = some a ∧ value? (r.after n).current = some b ∧
      |a - b| ≤ (n + 2) / 2 ^ 23 ∧ (Unrounded n start slope → a = b)

theorem Landed.skips (landed : r.Landed) (n : ℕ) : r.Skips n := by
  have remaining : (r.skip n).remaining = (r.after n).remaining := by
    rw [remaining_skip, remaining_after]
  refine ⟨?_, remaining, ?_, ?_, ?_, ?_⟩
  · rw [target_skip, target_after]
  · unfold isMoving
    rw [remaining]
  · intro rest
    rw [isMoving_eq_false, remaining_after, Nat.sub_eq_zero_iff_le] at rest
    exact landed.skip_eq_after rest
  · rintro start slope rfl moderate
    have way_le := moderate.way_le
    rw [Nat.cast_one, one_mul] at way_le
    exact landed.skip_one moderate.increment way_le
  · intro start slope moving moderate
    have early : n < r.remaining := by
      rw [isMoving_eq_true, remaining_after] at moving
      omega
    obtain ⟨a, skipped, off, same⟩ := moderate.skip early
    obtain ⟨b, stepped, off', same'⟩ := moderate.after early le_rfl
    refine ⟨a, b, skipped, stepped, ?_, fun unrounded => ?_⟩
    · have total := abs_sub_le a (start + n * slope) b
      rw [abs_sub_comm (start + n * slope)] at total
      linarith
    · rw [same unrounded, same' unrounded]

end Ramp

end Mixdown
