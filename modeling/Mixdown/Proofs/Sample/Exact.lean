import Mathlib
import Mixdown.Proofs.Single.Packing
import Mixdown.Sample.Scalar

/-!
# Exact arithmetic on short integers

A single has 24 bits for its digits, so an integer of at most 24 bits times a power of two is a
single without rounding. `StandsFor` says which unpacked number that is. Sums of such numbers that
stay this short and products with one are exact, too, and so is the way back to an integer.
-/

namespace Mixdown

open Float.Model (UnpackedFloat Format totalExponent)
open Float.Model.UnpackedFloat

namespace Single

/-- An integer whose digits fit into a single. -/
def Short (n : Int) : Prop := n.natAbs < 2 ^ 24

instance (n : Int) : Decidable (Short n) := inferInstanceAs (Decidable (_ < _))

/-- The unpacked number with value `n * 2 ^ e` whose first of 24 digits is not zero. -/
inductive StandsFor (e : Int) : Int → UnpackedFloat → Prop
  | zero : StandsFor e 0 (.zero .positive)
  | finite (s : Sign) {m : Nat} (g : Nat) (pos : 0 < m <<< g) : (m <<< g).log2 = 23 →
      StandsFor e (s.apply m) (.finite s (m <<< g) (e - g) pos)

theorem log2_shiftLeft {m : Nat} (pos : 0 < m) (k : Nat) : (m <<< k).log2 = m.log2 + k := by
  have some_shifted : m <<< k ≠ 0 := by
    rw [Nat.shiftLeft_eq]
    exact Nat.ne_of_gt (Nat.mul_pos pos (Nat.two_pow_pos k))
  have lower := Nat.log2_self_le (Nat.ne_of_gt pos)
  have upper := Nat.lt_log2_self (n := m)
  rw [Nat.log2_eq_iff some_shifted, Nat.shiftLeft_eq, Nat.add_right_comm, Nat.pow_add, Nat.pow_add]
  exact ⟨Nat.mul_le_mul_right _ lower, Nat.mul_lt_mul_of_pos_right upper (Nat.two_pow_pos k)⟩

/-- How far a mantissa was moved to have its first digit in the first of 24 places. -/
theorem places {m g : Nat} (first : (m <<< g).log2 = 23) : 0 < m ∧ m.log2 + g = 23 := by
  rcases Nat.eq_zero_or_pos m with rfl | digit
  · rw [Nat.zero_shiftLeft] at first
    nomatch first
  · exact ⟨digit, (log2_shiftLeft digit g).symm.trans first⟩

theorem targetExponent_eq (m : Nat) (e : Int) :
    Format.binary32.targetExponent (totalExponent m e) = max (m.log2 + e - 23) (-149) := by
  simp only [Format.targetExponent, totalExponent, Format.mantissaBits, Format.minExponent]
  norm_num
  omega

/-- Zeros at the end are shifted out without a trace. -/
theorem shiftRight_zeros (m k : Nat) :
    (⟨m <<< k, false, false⟩ : ExtendedMantissa) >>> k = ⟨m, false, false⟩ := by
  show k.repeat ExtendedMantissa.shiftRightOne ⟨m <<< k, false, false⟩ = _
  induction k generalizing m with
  | zero => rfl
  | succ k ih =>
    have once : m <<< (k + 1) = (2 * m) <<< k := by
      rw [Nat.shiftLeft_eq, Nat.shiftLeft_eq, Nat.pow_succ]
      ring
    rw [once, Nat.repeat, ih]
    simp [ExtendedMantissa.shiftRightOne]

/-- A number whose digits begin at the first of the 24 places is brought to them without loss. -/
theorem shiftToTargetExponent_zeros {m : Nat} (first : m.log2 = 23) {e : Int} (low : -149 ≤ e)
    (k : Nat) : shiftToTargetExponent Format.binary32 (m <<< k) (e - k) .exact =
      (⟨m, false, false⟩, e) := by
  have pos : 0 < m := by
    rcases Nat.eq_zero_or_pos m with rfl | pos
    · nomatch first
    · exact pos
  have target : Format.binary32.targetExponent (totalExponent (m <<< k) (e - k)) = e := by
    rw [targetExponent_eq, log2_shiftLeft pos, first]
    omega
  have distance : (e - (e - k)).toNat = k := by omega
  simp only [shiftToTargetExponent, target, shiftToExponent, distance,
    ExtendedMantissa.ofMantissaAndAccuracy, shiftRight_zeros, Int.sub_add_cancel]

theorem roundWithAccuracy_zeros (s : Sign) {m : Nat} (first : m.log2 = 23) (pos : 0 < m) {e : Int}
    (low : -149 ≤ e) (k : Nat) :
    roundWithAccuracy Format.binary32 s (m <<< k) (e - k) .exact = .finite s m e pos := by
  have once := shiftToTargetExponent_zeros first low k
  have again := shiftToTargetExponent_zeros first low 0
  rw [Nat.shiftLeft_zero, Int.natCast_zero, Int.sub_zero] at again
  have rounded : (⟨m, false, false⟩ : ExtendedMantissa).roundedMantissa = m := rfl
  simp only [roundWithAccuracy, once, rounded, again, Nat.ne_of_gt pos, dite_false]

/-- A short number is rounded to itself, whatever zeros it ends in. -/
theorem round_short (s : Sign) {m : Nat} (pos : 0 < m) (short : m < 2 ^ 24) {e : Int}
    (low : -126 ≤ e) (k : Nat) : StandsFor e (s.apply m)
      (Float.Model.UnpackedFloat.round Format.binary32 s (m <<< k) (e - k)) := by
  have digits : m.log2 < 24 := (Nat.log2_lt (Nat.ne_of_gt pos)).mpr short
  obtain ⟨g, places⟩ : ∃ g : Nat, m.log2 + g = 23 := ⟨23 - m.log2, by omega⟩
  have first : (m <<< g).log2 = 23 := (log2_shiftLeft pos g).trans places
  have some_digit : 0 < m <<< g := by
    rw [Nat.shiftLeft_eq]
    exact Nat.mul_pos pos (Nat.two_pow_pos g)
  have target : Format.binary32.targetExponent (totalExponent (m <<< k) (e - k)) = e - g := by
    rw [targetExponent_eq, log2_shiftLeft pos]
    omega
  have decreased : decreaseExponent (m <<< k) (e - k) (e - g) =
      ((m <<< g) <<< (k - g), e - g - (k - g : Nat)) := by
    have distance : (e - k - (e - g)).toNat = g - k := by omega
    unfold decreaseExponent
    simp only [distance, ← Nat.shiftLeft_add]
    rw [show k + (g - k) = g + (k - g) by omega]
    congr 1
    omega
  have rounded : Float.Model.UnpackedFloat.round Format.binary32 s (m <<< k) (e - k) =
      .finite s (m <<< g) (e - g) some_digit := by
    simp only [Float.Model.UnpackedFloat.round, target, decreased]
    exact roundWithAccuracy_zeros s first some_digit (by omega) (k - g)
  rw [rounded]
  exact .finite s g some_digit first

theorem standsFor_normalize {n : Int} (short : Short n) {e : Int} (low : -126 ≤ e) (k : Nat) :
    StandsFor e n (UnpackedFloat.normalize Format.binary32 (n * 2 ^ k) (e - k) .positive) := by
  unfold Short at short
  have scale : (0 : Int) < 2 ^ k := Int.pow_pos (by decide)
  have shifted : ∀ m : Nat, ((m : Int) * 2 ^ k).toNat = m <<< k := by
    intro m
    rw [Nat.shiftLeft_eq]
    exact Int.toNat_natCast (m * 2 ^ k)
  unfold UnpackedFloat.normalize
  rcases Int.lt_trichotomy n 0 with negative | rfl | positive
  · obtain ⟨m, rfl⟩ : ∃ m : Nat, n = -(m : Int) := ⟨n.natAbs, by omega⟩
    have below : -(m : Int) * 2 ^ k < 0 := Int.mul_neg_of_neg_of_pos negative scale
    rw [Int.compare_eq_lt.mpr below]
    simp only [Int.neg_mul, Int.neg_neg, shifted]
    exact round_short .negative (by omega) (by omega) low k
  · rw [Int.zero_mul]
    exact .zero
  · obtain ⟨m, rfl⟩ : ∃ m : Nat, n = m := ⟨n.natAbs, by omega⟩
    have above : 0 < (m : Int) * 2 ^ k := Int.mul_pos positive scale
    rw [Int.compare_eq_gt.mpr above]
    simp only [shifted]
    exact round_short .positive (by omega) (by omega) low k

/-- Only one number that begins at the first of the 24 places stands for an integer. -/
theorem StandsFor.unique {e n : Int} {f f' : UnpackedFloat} (here : StandsFor e n f)
    (there : StandsFor e n f') : f = f' := by
  have signed : ∀ {s s' : Sign} {m m' : Nat}, 0 < m → 0 < m' → s.apply m = s'.apply m' →
      s = s' ∧ m = m' := by
    intro s s' m m' pos pos' same
    cases s <;> cases s' <;> simp only [Sign.apply] at same
    · exact ⟨rfl, by omega⟩
    · omega
    · omega
    · exact ⟨rfl, by omega⟩
  cases here with
  | zero =>
    generalize zero : (0 : Int) = n at there
    cases there with
    | zero => rfl
    | @finite s m g pos first =>
      have digit := (places first).1
      cases s <;> simp only [Sign.apply] at zero <;> omega
  | @finite s m g pos first =>
    generalize same : s.apply m = n at there
    cases there with
    | zero =>
      have digit := (places first).1
      cases s <;> simp only [Sign.apply] at same <;> omega
    | @finite s' m' g' pos' first' =>
      obtain ⟨digit, distance⟩ := places first
      obtain ⟨digit', distance'⟩ := places first'
      obtain ⟨rfl, rfl⟩ := signed digit digit' same
      obtain rfl : g = g' := by omega
      rfl

/-- What stands for a short integer is read back as it was packed. -/
theorem StandsFor.unpack_pack {e n : Int} {f : UnpackedFloat} (stands : StandsFor e n f)
    (low : -126 ≤ e) (high : e ≤ 104) : (Float32.Model.pack f).unpack = f := by
  cases stands with
  | zero => rfl
  | @finite s m g pos first =>
    have few := (places first).2
    obtain ⟨lower, upper⟩ := (Nat.log2_eq_iff (Nat.ne_of_gt pos)).mp first
    exact Single.unpack_pack ⟨upper, by omega, .inl lower⟩ (by omega)

/-- What `nearest` gives for a short integer. -/
theorem standsFor_nearest {n : Int} (short : Short n) {e : Int} (low : -126 ≤ e)
    (high : e ≤ 104) :
    StandsFor e n (nearest n e).toModel.unpack := by
  have stands := standsFor_normalize short low 0
  rw [Int.pow_zero, Int.mul_one, Int.natCast_zero, Int.sub_zero] at stands
  show StandsFor e n
    (Float32.Model.pack (UnpackedFloat.normalize Format.binary32 n e .positive)).unpack
  rw [stands.unpack_pack low high]
  exact stands

/-- Whatever is packed and stands for a short integer is what `nearest` gives for it. -/
theorem StandsFor.nearest_eq {n e : Int} {f : UnpackedFloat} (stands : StandsFor e n f)
    (short : Short n) (low : -126 ≤ e) : .ofModel (.pack f) = nearest n e := by
  have normal := standsFor_normalize short low 0
  rw [Int.pow_zero, Int.mul_one, Int.natCast_zero, Int.sub_zero] at normal
  rw [stands.unique normal]
  rfl

/-- The number that a signed mantissa is after its exponent was decreased. -/
theorem apply_decreaseExponent (s : Sign) (m g k : Nat) :
    s.apply ((m <<< g) <<< k : Nat) = s.apply m * 2 ^ (g + k) := by
  rw [← Nat.shiftLeft_add, Nat.shiftLeft_eq]
  cases s
  · simp only [Sign.apply]
    push_cast
    ring
  · simp only [Sign.apply]
    push_cast
    ring

/-- Addition is exact while the sum is short. -/
theorem StandsFor.add {e a b : Int} {f f' : UnpackedFloat} (here : StandsFor e a f)
    (there : StandsFor e b f') (short : Short (a + b)) (low : -126 ≤ e) :
    StandsFor e (a + b) (UnpackedFloat.add Format.binary32 f f') := by
  cases here with
  | zero =>
    rw [Int.zero_add] at short ⊢
    cases there with
    | zero => exact .zero
    | finite s g pos first => exact .finite s g pos first
  | @finite s m g pos first =>
    cases there with
    | zero =>
      rw [Int.add_zero] at short ⊢
      exact .finite s g pos first
    | @finite s' m' g' pos' first' =>
      -- both are brought to the smaller exponent
      obtain ⟨k, k', same⟩ : ∃ k k', g + k = g' + k' ∧
          (min (e - g) (e - g') = e - (g + k : Nat)) ∧
          ((e - g) - (e - (g + k : Nat))).toNat = k ∧
          ((e - g') - (e - (g + k : Nat))).toNat = k' :=
        ⟨g' - g, g - g', by omega, by omega, by omega, by omega⟩
      obtain ⟨level, smaller, distance, distance'⟩ := same
      have sum : s.apply ((m <<< g) <<< k : Nat) + s'.apply ((m' <<< g') <<< k' : Nat) =
          (s.apply m + s'.apply m') * 2 ^ (g + k) := by
        rw [apply_decreaseExponent, apply_decreaseExponent, level, Int.add_mul]
      simp only [UnpackedFloat.add, decreaseExponent, smaller, distance, distance', sum]
      exact standsFor_normalize short low (g + k)

/-- The unpacked one. -/
theorem unpack_one : (1 : Float32).toModel.unpack =
    .finite .positive (1 <<< 23) (-23) (by decide) := rfl

/-- Nothing changes under a gain of one. -/
theorem StandsFor.mul_one {e n : Int} {f : UnpackedFloat} (stands : StandsFor e n f)
    (low : -126 ≤ e) :
    UnpackedFloat.mul Format.binary32 f (.finite .positive (1 <<< 23) (-23) (by decide)) = f := by
  cases stands with
  | zero => rfl
  | @finite s m g pos first =>
    have few := (places first).2
    have scaled : m <<< g * 1 <<< 23 = (m <<< g) <<< 23 := by
      rw [Nat.shiftLeft_eq 1, Nat.one_mul, ← Nat.shiftLeft_eq]
    have sign : s * .positive = s := by
      cases s <;> rfl
    simp only [UnpackedFloat.mul, scaled, sign]
    exact roundWithAccuracy_zeros s first pos (by omega) 23

/-- The sum of short fractions of one power of two is exact. -/
theorem nearest_add {a b e : Int} (short : Short a) (short' : Short b) (sum : Short (a + b))
    (low : -126 ≤ e) (high : e ≤ 104) : nearest a e + nearest b e = nearest (a + b) e :=
  ((standsFor_nearest short low high).add (standsFor_nearest short' low high) sum low).nearest_eq
    sum low

theorem nearest_mul_one {n e : Int} (short : Short n) (low : -126 ≤ e) (high : e ≤ 104) :
    nearest n e * 1 = nearest n e := by
  have stands := standsFor_nearest short low high
  have same := stands.mul_one low
  rw [← unpack_one] at same
  show Float32.ofModel (.pack (UnpackedFloat.mul Format.binary32 _ _)) = _
  rw [same]
  exact stands.nearest_eq short low

theorem roundHalfAway_zeros (m g : Nat) : roundHalfAway (m <<< g) (-g) = m := by
  unfold roundHalfAway
  split
  · rename_i none_moved
    obtain rfl : g = 0 := by omega
    rfl
  · have distance : (-(-(g : Int))).toNat = g := by omega
    have half : 2 * m <<< g + 1 <<< g = (2 * m + 1) * 2 ^ g := by
      rw [Nat.shiftLeft_eq, Nat.shiftLeft_eq]
      ring
    rw [distance, half, Nat.shiftRight_eq_div_pow, Nat.pow_succ', Nat.mul_div_mul_right _ 2
      (Nat.two_pow_pos g)]
    omega

/-- A fraction of full scale that is a short integer is that integer, held within the range of the
width. -/
theorem quantize_nearest {n : Int} (short : Short n) {width : Nat} (pos : 1 ≤ width)
    (few : width ≤ 127) : quantize width (nearest n (1 - width)) =
      max (-2 ^ (width - 1)) (min (2 ^ (width - 1) - 1) n) := by
  have stands := standsFor_nearest short (e := 1 - width) (by omega) (by omega)
  have top : ((1 <<< (width - 1) : Nat) : Int) = 2 ^ (width - 1) := by
    rw [Nat.shiftLeft_eq, Nat.one_mul]
    push_cast
    rfl
  have some_range : (0 : Int) < 2 ^ (width - 1) := Int.pow_pos (by decide)
  unfold quantize
  rw [top]
  generalize (nearest n (1 - width)).toModel.unpack = f at stands
  generalize (2 : Int) ^ (width - 1) = range at some_range ⊢
  cases stands with
  | zero =>
    simp only
    omega
  | @finite s m g positive first =>
    have scaled : (1 - width - g + (width - 1 : Nat) : Int) = -g := by omega
    cases s with
    | positive =>
      simp only [scaled, roundHalfAway_zeros, Sign.apply]
      omega
    | negative =>
      simp only [scaled, roundHalfAway_zeros, Sign.apply]
      omega

/-- The number that a single stands for, if it is one. -/
def value? (x : Float32) : Option Rat :=
  match x.toModel.unpack with
  | .notANumber | .infinity _ => none
  | .zero _ => some 0
  | .finite s m e _ => some ((s.apply m : Int) * 2 ^ e)

theorem value?_nearest {n e : Int} (short : Short n) (low : -126 ≤ e) (high : e ≤ 104) :
    value? (nearest n e) = some ((n : Rat) * (2 : Rat) ^ e) := by
  have stands := standsFor_nearest short low high
  unfold value?
  generalize (nearest n e).toModel.unpack = f at stands ⊢
  cases stands with
  | zero => simp
  | @finite s m g pos first =>
    have moved : ((s.apply (m <<< g : Nat) : Int) : Rat) = (s.apply m : Int) * 2 ^ g := by
      have signed := apply_decreaseExponent s m g 0
      rw [Nat.shiftLeft_zero, Nat.add_zero] at signed
      rw [signed]
      push_cast
      rfl
    have two : (2 : Rat) ≠ 0 := by decide
    simp only [moved]
    rw [mul_assoc, ← zpow_natCast, ← zpow_add₀ two, add_sub_cancel]

end Single

/-- An integer held within the range of 16 bits. -/
def saturateInt16 (n : Int) : Int := max (-32768) (min 32767 n)

theorem short_toInt (s : Int16) : Single.Short s.toInt := by
  have lower := s.le_toInt
  have upper := s.toInt_lt
  unfold Single.Short
  omega

/-- A 16-bit sample is exactly the fraction of full scale that it stands for. -/
theorem value?_singleOfInt16 (s : Int16) :
    Single.value? (singleOfInt16 s) = some ((s.toInt : Rat) / 32768) := by
  have value := Single.value?_nearest (short_toInt s) (e := -15) (by decide) (by decide)
  have scale : (2 : Rat) ^ (-15 : Int) = (32768 : Rat)⁻¹ := by
    rw [zpow_neg]
    norm_num
  unfold singleOfInt16
  rw [value, scale, div_eq_mul_inv]

/-- A short fraction of full scale becomes the sample that it stands for, or the nearest there
is. -/
theorem toInt_int16OfSingle {n : Int} (short : Single.Short n) :
    (int16OfSingle (Single.nearest n (-15))).toInt = saturateInt16 n := by
  have range : Single.quantize 16 (Single.nearest n (-15)) = saturateInt16 n :=
    Single.quantize_nearest short (by decide : 1 ≤ 16) (by decide)
  unfold int16OfSingle
  rw [range]
  unfold saturateInt16
  exact Int16.toInt_ofInt_of_le (by omega) (by omega)

end Mixdown
