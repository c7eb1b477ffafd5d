import Mathlib

/-!
# The nearest values

Values that fit have no more than 24 binary digits and none below the 149th place. Rounding gives a
value that fits and to which none is nearer. So it does not pass over values that fit, changes none
of them, and is off by half a unit of the last place at most.
-/

namespace Mixdown

namespace Single

/-- The value has digits for the places that there are. -/
def Fits (q : ℚ) : Prop := ∃ n e : ℤ, |n| < 2 ^ 24 ∧ -149 ≤ e ∧ q = n * 2 ^ e

theorem fits_int {n : ℤ} (short : |n| < 2 ^ 24) : Fits n := ⟨n, 0, short, by decide, by simp⟩

theorem fits_zero : Fits 0 := by exact_mod_cast fits_int (n := 0) (by decide)

theorem fits_one : Fits 1 := by exact_mod_cast fits_int (n := 1) (by decide)

theorem Fits.neg {q : ℚ} (fits : Fits q) : Fits (-q) := by
  obtain ⟨n, e, short, low, rfl⟩ := fits
  exact ⟨-n, e, by rwa [abs_neg], low, by push_cast; ring⟩

/-- Multiples of a power of two fit up to the 24th power after it. -/
theorem fits_grid {n e : ℤ} (few : |n| ≤ 2 ^ 24) (low : -149 ≤ e) : Fits (n * 2 ^ e) := by
  rcases few.lt_or_eq with short | full
  · exact ⟨n, e, short, low, rfl⟩
  · have scale : (2 : ℚ) ^ (e + 24) = 2 ^ 24 * 2 ^ e := by
      rw [zpow_add₀ (by norm_num), mul_comm]
      rfl
    rcases (abs_eq (by decide)).mp full with rfl | rfl
    · exact ⟨1, e + 24, by decide, by omega, by rw [scale]; push_cast; ring⟩
    · exact ⟨-1, e + 24, by decide, by omega, by rw [scale]; push_cast; ring⟩

theorem fits_zpow {e : ℤ} (low : -149 ≤ e) : Fits (2 ^ e) :=
  ⟨1, e, by decide, low, by simp⟩

/-- A value that fits and to which none that fits is nearer. -/
structure Nearest (q v : ℚ) : Prop where
  fits : Fits v
  least : ∀ w, Fits w → |v - q| ≤ |w - q|

namespace Nearest

variable {q v w : ℚ}

theorem neg (nearest : Nearest q v) : Nearest (-q) (-v) := by
  refine ⟨nearest.fits.neg, fun w fits => ?_⟩
  have least := nearest.least (-w) fits.neg
  rw [show -v - -q = -(v - q) by ring, show w - -q = -(-w - q) by ring, abs_neg, abs_neg]
  exact least

/-- What fits is not changed. -/
theorem eq_of_fits (nearest : Nearest q v) (fits : Fits q) : v = q := by
  have least := nearest.least q fits
  rw [sub_self, abs_zero] at least
  exact sub_eq_zero.mp (abs_eq_zero.mp (le_antisymm least (abs_nonneg _)))

theorem of_fits (fits : Fits q) : Nearest q q :=
  ⟨fits, fun w _ => by rw [sub_self, abs_zero]; exact abs_nonneg _⟩

/-- No value that fits is passed over downwards. -/
theorem le_of_le (nearest : Nearest q v) (fits : Fits w) (le : w ≤ q) : w ≤ v := by
  by_contra passed
  have least := nearest.least w fits
  rw [abs_of_nonpos (by linarith), abs_of_nonpos (by linarith)] at least
  linarith

/-- Nor upwards. -/
theorem ge_of_ge (nearest : Nearest q v) (fits : Fits w) (ge : q ≤ w) : v ≤ w := by
  have passed := nearest.neg.le_of_le fits.neg (neg_le_neg ge)
  linarith

theorem abs_le_of_le (nearest : Nearest q v) (fits : Fits w) (le : |q| ≤ w) : |v| ≤ w := by
  obtain ⟨above, below⟩ := abs_le.mp le
  exact abs_le.mpr ⟨nearest.le_of_le fits.neg above, nearest.ge_of_ge fits below⟩

/-- Up to a power of two, the error is half a unit of the last of the 24 places before it. -/
theorem error_le (nearest : Nearest q v) {k : ℤ} (low : -125 ≤ k) (le : |q| ≤ 2 ^ k) :
    |v - q| ≤ 2 ^ (k - 25) := by
  have unit : (0 : ℚ) < 2 ^ (k - 24) := zpow_pos (by norm_num) _
  have top : (2 : ℚ) ^ k = 2 ^ 24 * 2 ^ (k - 24) := by
    rw [← zpow_natCast, ← zpow_add₀ (by norm_num)]
    congr 1
    push_cast
    ring
  have half : (2 : ℚ) ^ (k - 24) = 2 * 2 ^ (k - 25) := by
    rw [← zpow_one_add₀ (by norm_num)]
    congr 1
    ring
  -- the nearest multiple of that unit fits
  have rounded := abs_sub_round (q / (2 : ℚ) ^ (k - 24))
  have few : |round (q / (2 : ℚ) ^ (k - 24))| ≤ 2 ^ 24 := by
    have inside : |q / 2 ^ (k - 24)| ≤ (2 : ℚ) ^ 24 := by
      rw [abs_div, abs_of_pos unit, div_le_iff₀ unit, ← top]
      exact le
    have close := (abs_sub_abs_le_abs_sub (round (q / (2 : ℚ) ^ (k - 24)) : ℚ) _).trans
      ((abs_sub_comm _ _).trans_le rounded)
    have less : |(round (q / (2 : ℚ) ^ (k - 24)) : ℚ)| < 2 ^ 24 + 1 := by linarith
    rw [← Int.cast_abs] at less
    exact Int.lt_add_one_iff.mp (by exact_mod_cast less)
  refine (nearest.least _ (fits_grid few (show -149 ≤ k - 24 by omega))).trans ?_
  rw [abs_sub_comm] at rounded
  have scaled := mul_le_mul_of_nonneg_right rounded unit.le
  rw [← abs_of_pos unit, ← abs_mul, abs_of_pos unit, sub_mul,
    div_mul_cancel₀ _ (ne_of_gt unit)] at scaled
  linarith

/-- Among numbers up to one, rounding is off by half a unit of the last of 24 places at most. -/
theorem error_le_of_le_one (nearest : Nearest q v) (le : |q| ≤ 1) : |v - q| ≤ 1 / 2 ^ 25 := by
  have error := nearest.error_le (k := 0) (by decide) (by simpa using le)
  rwa [show (2 : ℚ) ^ (0 - 25 : ℤ) = 1 / 2 ^ 25 by norm_num] at error

end Nearest

/-- The nearest of the multiples of a power of two is the nearest value, if the power is the lowest
there is or all of its 23rd multiples are passed. -/
theorem nearest_of_grid {N : ℕ} {t : ℤ} {q : ℚ} (few : N ≤ 2 ^ 24) (low : -149 ≤ t)
    (close : |(N : ℚ) * 2 ^ t - q| ≤ 2 ^ t / 2) (high : 2 ^ 23 * 2 ^ t ≤ q ∨ t = -149) :
    Nearest q (N * 2 ^ t) := by
  have unit : (0 : ℚ) < 2 ^ t := zpow_pos (by norm_num) t
  -- no multiple of the power is nearer, as the error is half of it at most
  have multiple : ∀ k : ℤ, |(N : ℚ) * 2 ^ t - q| ≤ |k * 2 ^ t - q| := by
    intro k
    by_cases same : k = N
    · rw [same]
      exact le_refl _
    · have apart : (1 : ℚ) ≤ |(k : ℚ) - N| := by
        rw [← Int.cast_natCast, ← Int.cast_sub, ← Int.cast_abs]
        exact_mod_cast Int.one_le_abs (sub_ne_zero.mpr same)
      have far := mul_le_mul_of_nonneg_right apart unit.le
      rw [one_mul, ← abs_of_pos unit, ← abs_mul, abs_of_pos unit, sub_mul] at far
      have between := abs_sub_le ((k : ℚ) * 2 ^ t) q (N * 2 ^ t)
      rw [abs_sub_comm q] at between
      linarith
  refine ⟨?_, ?_⟩
  · have grid := fits_grid (n := N) (e := t) (by rw [Nat.abs_cast]; exact_mod_cast few) low
    rwa [Int.cast_natCast] at grid
  · rintro w ⟨n, e, short, above, rfl⟩
    rcases le_or_gt t e with coarse | fine
    · obtain ⟨j, rfl⟩ : ∃ j : ℕ, e = j + t := ⟨(e - t).toNat, by omega⟩
      have scaled : (n : ℚ) * 2 ^ ((j : ℤ) + t) = ((n * 2 ^ j : ℤ) : ℚ) * 2 ^ t := by
        rw [zpow_add₀ (by norm_num), zpow_natCast, ← mul_assoc]
        push_cast
        rfl
      rw [scaled]
      exact multiple _
    · -- what is finer lies below the 23rd multiple
      have passed : 2 ^ 23 * 2 ^ t ≤ q := high.resolve_right (by omega)
      refine (multiple (2 ^ 23)).trans ?_
      have less : (n : ℚ) * 2 ^ e ≤ 2 ^ 23 * 2 ^ t := by
        have digits : (n : ℚ) ≤ 2 ^ 24 := by
          exact_mod_cast (le_abs_self n).trans short.le
        have scale : (2 : ℚ) ^ (e + 1) ≤ 2 ^ t := zpow_le_zpow_right₀ (by norm_num) (by omega)
        have finer : (0 : ℚ) < 2 ^ e := zpow_pos (by norm_num) e
        calc (n : ℚ) * 2 ^ e ≤ 2 ^ 24 * 2 ^ e := mul_le_mul_of_nonneg_right digits finer.le
          _ = 2 ^ 23 * 2 ^ (e + 1) := by
            rw [zpow_add₀ (by norm_num)]
            ring
          _ ≤ 2 ^ 23 * 2 ^ t := mul_le_mul_of_nonneg_left scale (by norm_num)
      push_cast
      rw [abs_of_nonpos (by linarith), abs_of_nonpos (by linarith)]
      linarith

end Single

end Mixdown
