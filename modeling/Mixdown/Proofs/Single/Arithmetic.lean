import Mixdown.Proofs.Single.Rounding

/-!
# Arithmetic on singles by their values

Each operation on singles gives the single nearest to its exact result, as long as that is not too
large (`Rounds`).
-/

namespace Mixdown

open Float.Model (UnpackedFloat Format totalExponent)
open Float.Model.UnpackedFloat

namespace Single

/-! ## Unpacked numbers -/

theorem has_zero (s : Sign) : Has (.zero s) 0 := by
  refine ⟨?_, rfl⟩
  intro s m e pos same
  cases same

theorem has_finite (s : Sign) {m : ℕ} {e : ℤ} (pos : 0 < m) (inPlace : InPlace m e) :
    Has (.finite s m e pos) (signed s (m * 2 ^ e)) := by
  refine ⟨?_, ?_⟩
  · intro s' m' e' pos' same
    obtain ⟨-, rfl, rfl⟩ := UnpackedFloat.finite.inj same
    exact inPlace
  · rw [← signed_mul, ← cast_apply]
    rfl

theorem Has.fits {f : UnpackedFloat} {a : ℚ} (has : Has f a) : Fits a := by
  rcases has.cases with ⟨s, -, rfl⟩ | ⟨s, m, e, pos, -, inPlace, rfl⟩
  · exact fits_zero
  · refine ⟨s.apply m, e, ?_, inPlace.low, ?_⟩
    · have few := inPlace.few
      cases s
      · rw [Sign.apply, abs_neg, Nat.abs_cast]
        exact_mod_cast few
      · rw [Sign.apply, Nat.abs_cast]
        exact_mod_cast few
    · rw [cast_apply, signed_mul]

theorem Has.roundsTo {f : UnpackedFloat} {a : ℚ} (has : Has f a) : RoundsTo f a :=
  ⟨has.inPlace, a, has.value, .of_fits has.fits⟩

theorem Has.neg {f : UnpackedFloat} {a : ℚ} (has : Has f a) : Has f.neg (-a) := by
  rcases has.cases with ⟨s, rfl, rfl⟩ | ⟨s, m, e, pos, rfl, inPlace, rfl⟩
  · rw [neg_zero]
    exact has_zero _
  · have opposite : signed (-s) ((m : ℚ) * 2 ^ e) = -signed s (m * 2 ^ e) := by
      cases s
      · exact (neg_neg _).symm
      · rfl
    rw [← opposite]
    exact has_finite _ pos inPlace

/-- A number of any exponent is rounded to the nearest value. -/
theorem roundsTo_round (s : Sign) {m : ℕ} (pos : 0 < m) (e : ℤ) :
    RoundsTo (Float.Model.UnpackedFloat.round Format.binary32 s m e) (signed s (m * 2 ^ e)) := by
  have target := targetExponent_eq m e
  obtain ⟨k, distance⟩ : ∃ k : ℕ,
      (e - Format.binary32.targetExponent (totalExponent m e)).toNat = k := ⟨_, rfl⟩
  have moved : (m : ℚ) * 2 ^ e = (m <<< k : ℕ) * 2 ^ (e - k) := by
    rw [Nat.shiftLeft_eq, zpow_sub₀ (by norm_num), zpow_natCast]
    push_cast
    field_simp
  simp only [Float.Model.UnpackedFloat.round, decreaseExponent, distance]
  rw [moved]
  refine roundsTo_roundWithAccuracy s (describes_exact _ _) ?_
  rw [log2_shiftLeft pos]
  push_cast
  omega

theorem roundsTo_normalize (n e : ℤ) (zero : Sign) :
    RoundsTo (UnpackedFloat.normalize Format.binary32 n e zero) (n * 2 ^ e) := by
  unfold UnpackedFloat.normalize
  rcases lt_trichotomy n 0 with negative | rfl | positive
  · obtain ⟨m, rfl⟩ : ∃ m : ℕ, n = -(m : ℤ) := ⟨n.natAbs, by omega⟩
    rw [Int.compare_eq_lt.mpr negative]
    have rounds := roundsTo_round .negative (m := m) (by omega) e
    simp only [neg_neg, Int.toNat_natCast]
    rw [Int.cast_neg, Int.cast_natCast, neg_mul]
    exact rounds
  · rw [Int.cast_zero, zero_mul]
    exact (has_zero zero).roundsTo
  · obtain ⟨m, rfl⟩ : ∃ m : ℕ, n = m := ⟨n.natAbs, by omega⟩
    rw [Int.compare_eq_gt.mpr positive]
    have rounds := roundsTo_round .positive (m := m) (by omega) e
    simp only [Int.toNat_natCast]
    rw [Int.cast_natCast]
    exact rounds

/-- A number that is brought to a lower exponent keeps its value. -/
theorem apply_decreased (s : Sign) (m : ℕ) {e t : ℤ} (le : t ≤ e) :
    ((s.apply ((decreaseExponent m e t).1 : ℕ) : ℤ) : ℚ) * 2 ^ t = signed s (m * 2 ^ e) := by
  obtain ⟨k, rfl⟩ : ∃ k : ℕ, e = t + k := ⟨(e - t).toNat, by omega⟩
  have distance : (t + k - t : ℤ).toNat = k := by omega
  rw [cast_apply, signed_mul]
  congr 1
  simp only [decreaseExponent, distance]
  rw [Nat.shiftLeft_eq, zpow_add₀ (by norm_num), zpow_natCast]
  push_cast
  ring

theorem Has.add {f g : UnpackedFloat} {a b : ℚ} (here : Has f a) (there : Has g b) :
    RoundsTo (UnpackedFloat.add Format.binary32 f g) (a + b) := by
  rcases here.cases with ⟨s, rfl, rfl⟩ | ⟨s, m, e, pos, rfl, inPlace, rfl⟩
  · rw [zero_add]
    rcases there.cases with ⟨s', rfl, rfl⟩ | ⟨s', m', e', pos', rfl, inPlace', rfl⟩
    · simp only [UnpackedFloat.add]
      split
      · exact (has_zero _).roundsTo
      · exact (has_zero _).roundsTo
    · exact there.roundsTo
  · rcases there.cases with ⟨s', rfl, rfl⟩ | ⟨s', m', e', pos', rfl, inPlace', rfl⟩
    · rw [add_zero]
      exact here.roundsTo
    · have rounds := roundsTo_normalize (s.apply ((decreaseExponent m e (min e e')).1 : ℕ) +
        s'.apply ((decreaseExponent m' e' (min e e')).1 : ℕ)) (min e e') .positive
      rw [Int.cast_add, add_mul, apply_decreased s m (min_le_left e e'),
        apply_decreased s' m' (min_le_right e e')] at rounds
      exact rounds

/-- To subtract is to add the opposite. -/
theorem unpacked_sub (f g : UnpackedFloat) :
    UnpackedFloat.sub Format.binary32 f g = UnpackedFloat.add Format.binary32 f g.neg := by
  have opposite : ∀ (s : Sign) (n : ℤ), (-s).apply n = -s.apply n := by
    intro s n
    cases s
    · exact (neg_neg n).symm
    · rfl
  cases f <;> cases g <;>
    simp [UnpackedFloat.sub, UnpackedFloat.add, UnpackedFloat.neg, opposite, Int.sub_eq_add_neg]

theorem Has.sub {f g : UnpackedFloat} {a b : ℚ} (here : Has f a) (there : Has g b) :
    RoundsTo (UnpackedFloat.sub Format.binary32 f g) (a - b) := by
  rw [unpacked_sub, sub_eq_add_neg]
  exact here.add there.neg

theorem signed_times (s s' : Sign) (q r : ℚ) :
    signed s q * signed s' r = signed (s * s') (q * r) := by
  cases s <;> cases s'
  · exact neg_mul_neg q r
  · exact neg_mul q r
  · exact mul_neg q r
  · rfl

theorem Has.mul {f g : UnpackedFloat} {a b : ℚ} (here : Has f a) (there : Has g b) :
    RoundsTo (UnpackedFloat.mul Format.binary32 f g) (a * b) := by
  rcases here.cases with ⟨s, rfl, rfl⟩ | ⟨s, m, e, pos, rfl, inPlace, rfl⟩
  · rw [zero_mul]
    rcases there.cases with ⟨s', rfl, rfl⟩ | ⟨s', m', e', pos', rfl, inPlace', rfl⟩
    · exact (has_zero _).roundsTo
    · exact (has_zero _).roundsTo
  · rcases there.cases with ⟨s', rfl, rfl⟩ | ⟨s', m', e', pos', rfl, inPlace', rfl⟩
    · rw [mul_zero]
      exact (has_zero _).roundsTo
    · have product : ((m : ℚ) * 2 ^ e) * (m' * 2 ^ e') = (m * m' : ℕ) * 2 ^ (e + e') := by
        rw [zpow_add₀ (by norm_num)]
        push_cast
        ring
      -- one of two factors that are not both subnormal fills the places
      have many : e + e' ≤ max (((m * m').log2 : ℤ) + (e + e') - 23) (-149) := by
        have filled : 2 ^ 23 ≤ m * m' → 23 ≤ (m * m').log2 :=
          (Nat.le_log2 (Nat.ne_of_gt (Nat.mul_pos pos pos'))).mpr
        rcases inPlace.first with digits | rfl
        · have := filled (digits.trans (Nat.le_mul_of_pos_right m pos'))
          omega
        · rcases inPlace'.first with digits | rfl
          · have := filled (digits.trans (Nat.le_mul_of_pos_left m' pos))
            omega
          · omega
      rw [signed_times, product]
      exact roundsTo_roundWithAccuracy (s * s') (describes_exact _ _) many

/-- The accuracy of a quotient tells where it lies. -/
theorem describes_quotient (n : ℕ) {d : ℕ} (pos : 0 < d) (e : ℤ) :
    Describes (.ofMantissaAndAccuracy (n / d) (accuracyOfFraction (n % d) d)) e
      ((n : ℚ) / d * 2 ^ e) := by
  have divisor : (0 : ℚ) < d := by exact_mod_cast pos
  have less : ((n % d : ℕ) : ℚ) < d := by exact_mod_cast Nat.mod_lt n pos
  have nonneg : (0 : ℚ) ≤ (n % d : ℕ) := Nat.cast_nonneg _
  have whole : (n : ℚ) / d = (n / d : ℕ) + ((n % d : ℕ) : ℚ) / d := by
    rw [eq_comm, add_div' _ _ _ (ne_of_gt divisor), div_left_inj' (ne_of_gt divisor), mul_comm]
    exact_mod_cast Nat.div_add_mod n d
  rw [whole]
  unfold accuracyOfFraction
  by_cases none : n % d = 0
  · rw [if_pos none, none, Nat.cast_zero, zero_div, add_zero]
    exact describes_exact _ _
  · have some_rest : (0 : ℚ) < (n % d : ℕ) := by
      exact_mod_cast Nat.pos_of_ne_zero none
    rw [if_neg none]
    rcases lt_trichotomy (2 * (n % d)) d with less_half | half | more
    · rw [Nat.compare_eq_lt.mpr less_half]
      have below : 2 * ((n % d : ℕ) : ℚ) < d := by exact_mod_cast less_half
      refine ⟨((n % d : ℕ) : ℚ) / d, ?_, by positivity, ?_, ?_⟩
      · simp [ExtendedMantissa.ofMantissaAndAccuracy]
      · rw [div_lt_div_iff₀ divisor (by norm_num)]
        linarith
      · simpa [ExtendedMantissa.ofMantissaAndAccuracy] using
          ⟨none, Nat.ne_of_gt pos⟩
    · rw [Nat.compare_eq_eq.mpr half]
      have equal : 2 * ((n % d : ℕ) : ℚ) = d := by exact_mod_cast half
      refine ⟨0, ?_, le_refl _, by norm_num, ?_⟩
      · rw [show ((n % d : ℕ) : ℚ) / d = 1 / 2 by
          rw [div_eq_div_iff (ne_of_gt divisor) (by norm_num)]
          linarith]
        simp [ExtendedMantissa.ofMantissaAndAccuracy]
      · simp [ExtendedMantissa.ofMantissaAndAccuracy]
    · rw [Nat.compare_eq_gt.mpr more]
      have above : (d : ℚ) < 2 * (n % d : ℕ) := by exact_mod_cast more
      have over_half : (1 : ℚ) / 2 < ((n % d : ℕ) : ℚ) / d := by
        rw [div_lt_div_iff₀ (by norm_num) divisor]
        linarith
      have under_one : ((n % d : ℕ) : ℚ) / d < 1 := (div_lt_one divisor).mpr less
      refine ⟨((n % d : ℕ) : ℚ) / d - 1 / 2, ?_, by linarith, by linarith, ?_⟩
      · simp [ExtendedMantissa.ofMantissaAndAccuracy]
      · simpa [ExtendedMantissa.ofMantissaAndAccuracy] using ne_of_gt (sub_pos.mpr over_half)

theorem signed_div (s s' : Sign) (q r : ℚ) :
    signed s q / signed s' r = signed (s / s') (q / r) := by
  cases s <;> cases s'
  · exact neg_div_neg_eq q r
  · exact neg_div r q
  · exact div_neg q
  · rfl

theorem Has.div {f g : UnpackedFloat} {a b : ℚ} (here : Has f a) (there : Has g b)
    (some_divisor : b ≠ 0) : RoundsTo (UnpackedFloat.div Format.binary32 f g) (a / b) := by
  rcases there.cases with ⟨s', rfl, rfl⟩ | ⟨s', m', e', pos', rfl, inPlace', rfl⟩
  · exact absurd rfl some_divisor
  · rcases here.cases with ⟨s, rfl, rfl⟩ | ⟨s, m, e, pos, rfl, inPlace, rfl⟩
    · rw [zero_div]
      exact (has_zero _).roundsTo
    · obtain ⟨t, target⟩ : ∃ t : ℤ, min (e - e') (Format.binary32.targetExponent
          (totalExponent m e - totalExponent m' e')) = t := ⟨_, rfl⟩
      obtain ⟨k, distance⟩ : ∃ k : ℕ, (e - e' - t).toNat = k := ⟨_, rfl⟩
      have level : t + k = e - e' := by omega
      have quotient : ((m : ℚ) * 2 ^ e) / (m' * 2 ^ e') = ((m <<< k : ℕ) : ℚ) / m' * 2 ^ t := by
        have divisor : (m' : ℚ) ≠ 0 := by exact_mod_cast Nat.ne_of_gt pos'
        have scale : (2 : ℚ) ^ e = 2 ^ t * 2 ^ k * 2 ^ e' := by
          rw [← zpow_natCast, ← zpow_add₀ (by norm_num), ← zpow_add₀ (by norm_num)]
          congr 1
          omega
        rw [scale, Nat.shiftLeft_eq]
        push_cast
        field_simp
      -- the quotient has digits for all places, unless it reaches below the lowest
      have many : t ≤ max ((((m <<< k) / m').log2 : ℤ) + t - 23) (-149) := by
        by_cases lowest : t ≤ -149
        · omega
        · have enough : m'.log2 + 24 ≤ (m <<< k).log2 := by
            rw [log2_shiftLeft pos]
            simp only [Format.targetExponent, totalExponent, Format.mantissaBits,
              Format.minExponent] at target
            norm_num at target
            omega
          have few : m' < 2 ^ (m'.log2 + 1) := Nat.lt_log2_self
          have digits : 2 ^ 23 ≤ (m <<< k) / m' := by
            rw [Nat.le_div_iff_mul_le pos']
            calc 2 ^ 23 * m' ≤ 2 ^ 23 * 2 ^ (m'.log2 + 1) := Nat.mul_le_mul_left _ few.le
              _ = 2 ^ (m'.log2 + 24) := by rw [← pow_add]; congr 1; omega
              _ ≤ 2 ^ (m <<< k).log2 := Nat.pow_le_pow_right (by decide) enough
              _ ≤ m <<< k := Nat.log2_self_le (by
                rw [Nat.shiftLeft_eq]
                exact Nat.ne_of_gt (Nat.mul_pos pos (Nat.two_pow_pos k)))
          have := (Nat.le_log2 (by omega)).mpr digits
          omega
      have rounds := roundsTo_roundWithAccuracy (s / s') (describes_quotient (m <<< k) pos' t) many
      rw [signed_div, quotient]
      simp only [UnpackedFloat.div, divCore, target, distance]
      exact rounds

/-! ## Singles -/

/-- The single is the nearest to a value. -/
def Rounds (x : Float32) (q : ℚ) : Prop := ∃ v, value? x = some v ∧ Nearest q v

variable {x y : Float32} {a b : ℚ}

theorem fits_value? (value : value? x = some a) : Fits a := (has_unpack value).fits

theorem rounds_add (here : value? x = some a) (there : value? y = some b)
    (small : |a + b| ≤ 2 ^ 127) : Rounds (x + y) (a + b) :=
  ((has_unpack here).add (has_unpack there)).pack small

theorem rounds_sub (here : value? x = some a) (there : value? y = some b)
    (small : |a - b| ≤ 2 ^ 127) : Rounds (x - y) (a - b) :=
  ((has_unpack here).sub (has_unpack there)).pack small

theorem rounds_mul (here : value? x = some a) (there : value? y = some b)
    (small : |a * b| ≤ 2 ^ 127) : Rounds (x * y) (a * b) :=
  ((has_unpack here).mul (has_unpack there)).pack small

theorem rounds_div (here : value? x = some a) (there : value? y = some b) (some_divisor : b ≠ 0)
    (small : |a / b| ≤ 2 ^ 127) : Rounds (x / y) (a / b) :=
  ((has_unpack here).div (has_unpack there) some_divisor).pack small

/-- A result that fits is exact. -/
theorem Rounds.value?_eq {q : ℚ} (rounds : Rounds x q) (fits : Fits q) : value? x = some q := by
  obtain ⟨v, value, nearest⟩ := rounds
  rw [value, nearest.eq_of_fits fits]

theorem value?_one : value? 1 = some 1 := by
  have value := value?_nearest (n := 1) (e := 0) (by decide) (by decide) (by decide)
  rw [show nearest 1 0 = 1 by decide +kernel] at value
  simpa using value

theorem value?_zero : value? 0 = some 0 := by
  have value := value?_nearest (n := 0) (e := 0) (by decide) (by decide) (by decide)
  rw [show nearest 0 0 = 0 by decide +kernel] at value
  simpa using value

/-- A natural number of no more than 24 digits is exact. -/
theorem value?_ofNat {n : ℕ} (short : n < 2 ^ 24) : value? (ofNat n) = some (n : ℚ) := by
  have value := value?_nearest (n := n) (e := 0) (by unfold Short; omega) (by decide) (by decide)
  rw [zpow_zero, mul_one, Int.cast_natCast] at value
  exact value

/-- A natural number other than zero is a single of one at least, or it is infinite. -/
theorem ofNat_cases {n : ℕ} (pos : 0 < n) :
    (∃ v, value? (ofNat n) = some v ∧ 1 ≤ v ∧ (n : ℚ) ≤ 2 * v) ∨
      ∃ s, (ofNat n).toModel.unpack = .infinity s := by
  have rounds := roundsTo_normalize n 0 .positive
  rw [zpow_zero, mul_one, Int.cast_natCast] at rounds
  obtain ⟨v, value, nearest⟩ := rounds.value
  have one_le : 1 ≤ v := nearest.le_of_le fits_one (by exact_mod_cast pos)
  have half : (n : ℚ) ≤ 2 * v := by
    have power : (2 : ℚ) ^ (n.log2 : ℤ) ≤ v := by
      refine nearest.le_of_le (fits_zpow (by omega)) ?_
      rw [zpow_natCast]
      exact_mod_cast Nat.log2_self_le (Nat.ne_of_gt pos)
    have less : (n : ℚ) < 2 ^ (n.log2 + 1) := by exact_mod_cast Nat.lt_log2_self
    rw [zpow_natCast] at power
    rw [pow_succ] at less
    linarith
  have model : (ofNat n).toModel =
      .pack (UnpackedFloat.normalize Format.binary32 n 0 .positive) := rfl
  generalize UnpackedFloat.normalize Format.binary32 (n : ℤ) 0 .positive = f at *
  have single : value? (ofNat n) = valueOf? (Float32.Model.pack f).unpack := by
    rw [value?_eq, model]
  rw [single, model]
  cases f with
  | notANumber => cases value
  | infinity s => cases value
  | zero s =>
    rw [unpack_pack_zero]
    exact .inl ⟨v, value, one_le, half⟩
  | finite s m e pos =>
    by_cases high : e ≤ 104
    · rw [unpack_pack (rounds.inPlace rfl) high]
      exact .inl ⟨v, value, one_le, half⟩
    · rw [unpack_pack_high (by omega)]
      exact .inr ⟨s, rfl⟩

/-- A part of a gain: the quotient has the sign of the dividend, and it is not more than four times
the exact one. -/
theorem exists_div_ofNat (here : value? x = some a) (small : |a| ≤ 1) {n : ℕ} (pos : 0 < n) :
    ∃ d, value? (x / ofNat n) = some d ∧ (0 ≤ a → 0 ≤ d) ∧ (a ≤ 0 → d ≤ 0) ∧ n * |d| ≤ 4 := by
  rcases ofNat_cases pos with ⟨v, there, one_le, half⟩ | ⟨s, infinite⟩
  · have some_divisor : 0 < v := by linarith
    have quotient : |a / v| ≤ |a| := by
      rw [abs_div, abs_of_pos some_divisor]
      exact div_le_self (abs_nonneg a) one_le
    obtain ⟨d, value, nearest⟩ := rounds_div here there (ne_of_gt some_divisor)
      (quotient.trans (small.trans (by norm_num)))
    refine ⟨d, value, fun nonneg => ?_, fun nonpos => ?_, ?_⟩
    · exact nearest.le_of_le fits_zero (div_nonneg nonneg some_divisor.le)
    · exact nearest.ge_of_ge fits_zero (div_nonpos_of_nonpos_of_nonneg nonpos some_divisor.le)
    · -- zero is no nearer
      have least := nearest.least 0 fits_zero
      rw [zero_sub, abs_neg] at least
      have size := (abs_sub_abs_le_abs_sub d (a / v)).trans least
      have part : (n : ℚ) * |a / v| ≤ 2 := by
        rw [abs_div, abs_of_pos some_divisor, mul_div_assoc', div_le_iff₀ some_divisor]
        have n_nonneg : (0 : ℚ) ≤ n := Nat.cast_nonneg n
        nlinarith [abs_nonneg a]
      have n_nonneg : (0 : ℚ) ≤ n := Nat.cast_nonneg n
      nlinarith
  · -- nothing is left of a gain in infinitely many parts
    refine ⟨0, ?_, fun _ => le_refl _, fun _ => le_refl _, by norm_num⟩
    rcases (has_unpack here).cases with ⟨s', zero, -⟩ | ⟨s', m, e, some_digits, finite, -, -⟩
    · show value? (.ofModel (.pack (UnpackedFloat.div Format.binary32 x.toModel.unpack
        (ofNat n).toModel.unpack))) = some 0
      rw [zero, infinite, UnpackedFloat.div, value?_pack (unpack_pack_zero _)]
      rfl
    · show value? (.ofModel (.pack (UnpackedFloat.div Format.binary32 x.toModel.unpack
        (ofNat n).toModel.unpack))) = some 0
      rw [finite, infinite, UnpackedFloat.div, value?_pack (unpack_pack_zero _)]
      rfl

end Single

end Mixdown
