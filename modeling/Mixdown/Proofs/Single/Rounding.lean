import Mixdown.Proofs.Single.Nearest
import Mixdown.Proofs.Single.Values

/-!
# Rounding gives the nearest value

Digits are shifted out of a mantissa one by one. The two bits that are kept of them tell where the
number lies between two mantissas (`Describes`), which is enough to choose the nearer one.
-/

namespace Mixdown

open Float.Model (UnpackedFloat Format totalExponent)
open Float.Model.UnpackedFloat

namespace Single

/-- An extended mantissa tells where a number lies: how many units of the exponent there are,
whether there is half a unit more, and whether there is anything else, which is less than half a
unit. -/
def Describes (em : ExtendedMantissa) (e : ℤ) (q : ℚ) : Prop :=
  ∃ rest : ℚ, q = (em.mantissa + (if em.roundBit then 1 / 2 else 0) + rest) * 2 ^ e ∧
    0 ≤ rest ∧ rest < 1 / 2 ∧ (em.stickyBit = true ↔ rest ≠ 0)

theorem describes_exact (m : ℕ) (e : ℤ) :
    Describes (.ofMantissaAndAccuracy m .exact) e (m * 2 ^ e) :=
  ⟨0, by simp [ExtendedMantissa.ofMantissaAndAccuracy], le_refl _, by norm_num,
    by simp [ExtendedMantissa.ofMantissaAndAccuracy]⟩

/-- A digit that is shifted out becomes the half unit, and the former half unit joins the rest. -/
theorem Describes.shiftRightOne {em : ExtendedMantissa} {e : ℤ} {q : ℚ}
    (describes : Describes em e q) : Describes em.shiftRightOne (e + 1) q := by
  obtain ⟨rest, rfl, nonneg, small, sticky⟩ := describes
  obtain ⟨m, half, more⟩ := em
  have digits : (m : ℚ) = 2 * (m / 2 : ℕ) + (m % 2 : ℕ) := by
    exact_mod_cast (Nat.div_add_mod m 2).symm
  have last :
      (if (ExtendedMantissa.shiftRightOne ⟨m, half, more⟩).roundBit then (1 / 2 : ℚ) else 0) =
      (m % 2 : ℕ) / 2 := by
    rcases Nat.mod_two_eq_zero_or_one m with even | odd
    · simp [ExtendedMantissa.shiftRightOne, even]
    · simp [ExtendedMantissa.shiftRightOne, odd]
  refine ⟨((if half then 1 / 2 else 0) + rest) / 2, ?_, ?_, ?_, ?_⟩
  · rw [last, zpow_add₀ (by norm_num)]
    simp only [ExtendedMantissa.shiftRightOne, digits]
    ring
  · split <;> linarith
  · split <;> linarith
  · simp only [ExtendedMantissa.shiftRightOne, Bool.or_eq_true, sticky]
    cases half with
    | true =>
      have more : (1 / 2 + rest) / 2 ≠ 0 := by
        apply ne_of_gt
        linarith
      simpa using more
    | false => simp

theorem Describes.shiftRight {em : ExtendedMantissa} {e : ℤ} {q : ℚ}
    (describes : Describes em e q) (k : ℕ) : Describes (em >>> k) (e + k) q := by
  show Describes (k.repeat ExtendedMantissa.shiftRightOne em) (e + k) q
  induction k with
  | zero => simpa [Nat.repeat] using describes
  | succ k ih =>
    rw [Nat.repeat, Nat.cast_succ, ← add_assoc]
    exact ih.shiftRightOne

theorem mantissa_shiftRight (em : ExtendedMantissa) (k : ℕ) :
    (em >>> k).mantissa = em.mantissa / 2 ^ k := by
  show (k.repeat ExtendedMantissa.shiftRightOne em).mantissa = _
  induction k with
  | zero => simp [Nat.repeat]
  | succ k ih =>
    rw [Nat.repeat, pow_succ, ← Nat.div_div_eq_div_mul, ← ih]
    rfl

theorem mantissa_le_rounded (em : ExtendedMantissa) :
    em.mantissa ≤ em.roundedMantissa ∧ em.roundedMantissa ≤ em.mantissa + 1 := by
  obtain ⟨m, half, more⟩ := em
  cases half <;> cases more <;>
    simp [ExtendedMantissa.roundedMantissa, ExtendedMantissa.accuracy, Accuracy.roundToNearestEven]
  omega

/-- The rounded mantissa is off by half a unit at most. -/
theorem Describes.rounded {em : ExtendedMantissa} {e : ℤ} {q : ℚ} (describes : Describes em e q) :
    |(em.roundedMantissa : ℚ) * 2 ^ e - q| ≤ 2 ^ e / 2 := by
  obtain ⟨rest, rfl, nonneg, small, sticky⟩ := describes
  have unit : (0 : ℚ) < 2 ^ e := zpow_pos (by norm_num) e
  rw [← sub_mul, abs_mul, abs_of_pos unit, show (2 : ℚ) ^ e / 2 = 1 / 2 * 2 ^ e by ring]
  refine mul_le_mul_of_nonneg_right ?_ unit.le
  obtain ⟨m, half, more⟩ := em
  cases half with
  | false =>
    have same : (⟨m, false, more⟩ : ExtendedMantissa).roundedMantissa = m := by
      cases more <;> rfl
    simp only [same, Bool.false_eq_true, if_false]
    rw [abs_of_nonpos (by linarith)]
    linarith
  | true =>
    cases more with
    | true =>
      have up : (⟨m, true, true⟩ : ExtendedMantissa).roundedMantissa = m + 1 := rfl
      simp only [up, if_true, Nat.cast_add, Nat.cast_one]
      rw [abs_of_nonneg (by linarith)]
      linarith
    | false =>
      -- a tie, which is rounded up or down
      have none : rest = 0 := by simpa using sticky
      have bounds := mantissa_le_rounded ⟨m, true, false⟩
      have lower : (m : ℚ) ≤ (⟨m, true, false⟩ : ExtendedMantissa).roundedMantissa := by
        exact_mod_cast bounds.1
      have upper : ((⟨m, true, false⟩ : ExtendedMantissa).roundedMantissa : ℚ) ≤ m + 1 := by
        exact_mod_cast bounds.2
      simp only [if_true, none, add_zero]
      rw [abs_le]
      constructor <;> linarith

theorem Nearest.signed {q v : ℚ} (nearest : Nearest q v) (s : Sign) :
    Nearest (signed s q) (signed s v) := by
  cases s with
  | positive => exact nearest
  | negative => exact nearest.neg

/-- An unpacked number of the format whose value is nearest to `q`. -/
structure RoundsTo (f : UnpackedFloat) (q : ℚ) : Prop where
  inPlace : ∀ {s m e pos}, f = .finite s m e pos → InPlace m e
  value : ∃ v, valueOf? f = some v ∧ Nearest q v

/-- Digits in their places are not moved. -/
theorem shiftToTargetExponent_inPlace {m : ℕ} {t : ℤ} (few : m < 2 ^ 24) (low : -149 ≤ t) :
    shiftToTargetExponent Format.binary32 m t .exact = (⟨m, false, false⟩, t) := by
  have digits : m.log2 ≤ 23 := by
    rcases Nat.eq_zero_or_pos m with rfl | pos
    · decide
    · exact Nat.lt_succ_iff.mp ((Nat.log2_lt (Nat.ne_of_gt pos)).mpr few)
  have distance : (Format.binary32.targetExponent (totalExponent m t) - t).toNat = 0 := by
    rw [targetExponent_eq]
    omega
  simp only [shiftToTargetExponent, shiftToExponent, distance]
  rw [Int.natCast_zero, Int.add_zero]
  rfl

/-- A mantissa that rounding has brought to a digit more is moved by one place. -/
theorem shiftToTargetExponent_carried {t : ℤ} (low : -149 ≤ t) :
    shiftToTargetExponent Format.binary32 (2 ^ 24) t .exact = (⟨2 ^ 23, false, false⟩, t + 1) := by
  have zeros := shiftToTargetExponent_zeros (m := 2 ^ 23) (e := t + 1) (by decide) (by omega) 1
  rw [Nat.cast_one, Int.add_sub_cancel] at zeros
  exact zeros

/-- What rounding makes of digits whose number lies near enough. -/
theorem roundsTo_finite (s : Sign) {N : ℕ} {t : ℤ} {q : ℚ} (few : N ≤ 2 ^ 24) (low : -149 ≤ t)
    (first : 2 ^ 23 ≤ N ∨ t = -149) (nearest : Nearest q (N * 2 ^ t)) :
    RoundsTo
      (if h : (shiftToTargetExponent Format.binary32 N t .exact).1.mantissa = 0 then .zero s
        else .finite s (shiftToTargetExponent Format.binary32 N t .exact).1.mantissa
          (shiftToTargetExponent Format.binary32 N t .exact).2 (Nat.pos_of_ne_zero h))
      (signed s q) := by
  rcases few.lt_or_eq with short | rfl
  · rw [shiftToTargetExponent_inPlace short low]
    by_cases none : N = 0
    · rw [dif_pos none]
      have zero : signed s 0 = 0 := by
        cases s <;> simp [signed]
      have there := nearest.signed s
      rw [none, Nat.cast_zero, zero_mul, zero] at there
      refine ⟨?_, 0, rfl, there⟩
      intro s' m e pos same
      cases same
    · rw [dif_neg none]
      refine ⟨?_, _, rfl, ?_⟩
      · intro s' m e pos same
        obtain ⟨-, rfl, rfl⟩ := UnpackedFloat.finite.inj same
        exact ⟨short, low, first⟩
      · rw [cast_apply, signed_mul]
        exact nearest.signed s
  · rw [shiftToTargetExponent_carried low, dif_neg (show 2 ^ 23 ≠ 0 by decide)]
    refine ⟨?_, _, rfl, ?_⟩
    · intro s' m e pos same
      obtain ⟨-, rfl, rfl⟩ := UnpackedFloat.finite.inj same
      exact ⟨show 2 ^ 23 < 2 ^ 24 by decide, by omega, .inl (le_refl _)⟩
    · rw [cast_apply, signed_mul]
      have carried : ((2 ^ 24 : ℕ) : ℚ) * 2 ^ t = ((2 ^ 23 : ℕ) : ℚ) * 2 ^ (t + 1) := by
        rw [zpow_add₀ (by norm_num)]
        push_cast
        ring
      rw [← carried]
      exact nearest.signed s

/-- Digits that are too many, or reach below the lowest place, or are exact and in their places, are
rounded to the nearest value. -/
theorem roundsTo_roundWithAccuracy (s : Sign) {m : ℕ} {e : ℤ} {accuracy : Accuracy} {q : ℚ}
    (describes : Describes (.ofMantissaAndAccuracy m accuracy) e q)
    (many : e ≤ max (m.log2 + e - 23) (-149)) :
    RoundsTo (roundWithAccuracy Format.binary32 s m e accuracy) (signed s q) := by
  obtain ⟨k, place⟩ : ∃ k : ℕ, (e + k : ℤ) = max (m.log2 + e - 23) (-149) :=
    ⟨(max (m.log2 + e - 23) (-149) - e).toNat, by omega⟩
  have shifted : shiftToTargetExponent Format.binary32 m e accuracy =
      (ExtendedMantissa.ofMantissaAndAccuracy m accuracy >>> k, e + k) := by
    have distance : (Format.binary32.targetExponent (totalExponent m e) - e).toNat = k := by
      rw [targetExponent_eq, ← place]
      omega
    simp only [shiftToTargetExponent, shiftToExponent, distance]
  have mantissa : (ExtendedMantissa.ofMantissaAndAccuracy m accuracy).mantissa = m := by
    cases accuracy with
    | exact => rfl
    | inexact order => cases order <;> rfl
  have moved := describes.shiftRight k
  have whole := mantissa_shiftRight (.ofMantissaAndAccuracy m accuracy) k
  rw [mantissa] at whole
  generalize ExtendedMantissa.ofMantissaAndAccuracy m accuracy >>> k = em at shifted moved whole
  have low : -149 ≤ e + k := by omega
  have few : em.mantissa < 2 ^ 24 := by
    rw [whole, Nat.div_lt_iff_lt_mul (Nat.two_pow_pos k), ← pow_add]
    exact Nat.lt_log2_self.trans_le (Nat.pow_le_pow_right (by decide) (by omega))
  have first : 2 ^ 23 ≤ em.mantissa ∨ e + k = -149 := by
    rcases (show (e + k : ℤ) = -149 ∨ m.log2 = 23 + k by omega) with lowest | filled
    · exact .inr lowest
    · refine .inl ?_
      rw [whole, Nat.le_div_iff_mul_le (Nat.two_pow_pos k), ← pow_add, ← filled]
      refine Nat.log2_self_le ?_
      rintro rfl
      rw [show Nat.log2 0 = 0 from rfl] at filled
      omega
  obtain ⟨at_least, at_most⟩ := mantissa_le_rounded em
  have unit : (0 : ℚ) < 2 ^ (e + k) := zpow_pos (by norm_num) _
  have high : 2 ^ 23 * 2 ^ (e + k) ≤ q ∨ e + k = -149 := by
    refine first.imp_left fun filled => ?_
    obtain ⟨rest, rfl, nonneg, -, -⟩ := moved
    refine mul_le_mul_of_nonneg_right ?_ unit.le
    have digits : (2 : ℚ) ^ 23 ≤ em.mantissa := by exact_mod_cast filled
    split <;> linarith
  have rounded :=
    roundsTo_finite s (by omega) low (first.imp_left fun filled => filled.trans at_least)
    (nearest_of_grid (by omega) low moved.rounded high)
  unfold roundWithAccuracy
  rw [shifted]
  exact rounded

/-- A number of the format keeps its value when it is packed, as long as it is not too large. -/
theorem RoundsTo.pack {f : UnpackedFloat} {q : ℚ} (rounds : RoundsTo f q) (small : |q| ≤ 2 ^ 127) :
    ∃ v, value? (.ofModel (.pack f)) = some v ∧ Nearest q v := by
  obtain ⟨v, value, nearest⟩ := rounds.value
  refine ⟨v, ?_, nearest⟩
  cases f with
  | notANumber => cases value
  | infinity s => cases value
  | zero s => rwa [value?_pack (unpack_pack_zero s)]
  | finite s m e pos =>
    have inPlace := rounds.inPlace rfl
    have high : e ≤ 104 := by
      by_contra above
      have filled : 2 ^ 23 ≤ m := inPlace.first.resolve_right (by omega)
      have digits : (2 : ℚ) ^ 23 ≤ m := by exact_mod_cast filled
      have scale : (2 : ℚ) ^ (105 : ℤ) ≤ 2 ^ e := zpow_le_zpow_right₀ (by norm_num) (by omega)
      have bounded :=
        nearest.abs_le_of_le (fits_zpow (e := 127) (by decide)) (by exact_mod_cast small)
      obtain rfl := Option.some.inj value
      rw [cast_apply, signed_mul, abs_signed, abs_of_pos (by positivity)] at bounded
      have large := mul_le_mul digits scale (by positivity) (by positivity)
      norm_num at large bounded
      linarith
    rwa [value?_pack (unpack_pack inPlace high)]

end Single

end Mixdown
